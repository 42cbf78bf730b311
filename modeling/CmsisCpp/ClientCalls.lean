import CmsisCpp.TimedCall
import CmsisCpp.Library.Clients

/-! # The answer to a call in a run of threads

How an operation ends once its one call is answered, for the two readings of an
`osStatus_t` that the operations share.  The answers after that call are none. -/
set_option autoImplicit false

namespace CmsisCpp

open CallScript Clients

section Readings
variable {sig : Signature} {Val Val' : Type} {later : List (Answered sig)}
  {rest : Script sig SystemError Val'} {outcome : Except SystemError Val'} {sta : OsStatus}
  {what : String}

theorem follows_expectOk {value : Val'}
    (follows : Follows ((expectOk sta what : Script sig SystemError Unit).bind fun _ => .done value)
      later rest) : later = [] := by
  unfold expectOk at follows
  split at follows
  · exact (follows_throw follows).1
  · exact (follows_done follows).1

theorem ends_expectOk {value : Val'}
    (ends : Ends ((expectOk sta what : Script sig SystemError Unit).bind fun _ => .done value)
      later outcome) :
    later = [] ∧
      outcome = if sta = .osOK then .ok value else .error (osFailure sta what) := by
  unfold expectOk at ends
  split at ends
  · rename_i failed
    rw [if_neg failed]
    exact ends_throw ends
  · rename_i ok
    rw [if_pos (not_not.mp ok)]
    exact ends_done ends

variable {timeout : Int} {refused value : Val} {f : Val → Val'}

theorem follows_readStatus
    (follows : Follows ((readStatus timeout sta what refused value : Script sig SystemError Val).bind
      fun v => .done (f v)) later rest) : later = [] := by
  unfold readStatus at follows
  split at follows
  · exact (follows_done follows).1
  · split at follows
    · exact (follows_throw follows).1
    · exact (follows_done follows).1

theorem ends_readStatus
    (ends : Ends ((readStatus timeout sta what refused value : Script sig SystemError Val).bind
      fun v => .done (f v)) later outcome) :
    later = [] ∧ outcome =
      if timeout = 0 ∧ sta = .osErrorResource then .ok (f refused)
      else if sta ≠ .osOK ∧ sta ≠ .osErrorTimeout then .error (osFailure sta what)
      else .ok (f value) := by
  unfold readStatus at ends
  split at ends
  · rename_i isRefused
    rw [if_pos isRefused]
    exact ends_done ends
  · rename_i notRefused
    rw [if_neg notRefused]
    split at ends
    · rename_i failed
      rw [if_pos failed]
      exact ends_throw ends
    · rename_i answered
      rw [if_neg answered]
      exact ends_done ends

end Readings

section Outcomes
variable {sig : Signature} {Val : Type} {sta : OsStatus} {what : String}

theorem expectOk_eq : (expectOk sta what : Script sig SystemError Unit) =
    ofOutcome (if sta = .osOK then .ok () else .error (osFailure sta what)) := by
  by_cases ok : sta = .osOK <;> simp [expectOk, ok, ofOutcome]

theorem readStatus_eq {timeout : Int} {refused value : Val} :
    (readStatus timeout sta what refused value : Script sig SystemError Val) =
      ofOutcome (if timeout = 0 ∧ sta = .osErrorResource then .ok refused
        else if sta ≠ .osOK ∧ sta ≠ .osErrorTimeout then .error (osFailure sta what)
        else .ok value) := by
  unfold readStatus
  split
  · rfl
  · split <;> rfl

theorem asks_one {call : sig.Call} {next : sig.Reply call → Script sig SystemError Val}
    {reading : sig.Reply call → Except SystemError Val}
    (reads : ∀ reply, next reply = ofOutcome (reading reply)) : Asks 1 (.ask call next) := by
  apply Asks.ask
  intro reply
  rw [reads]
  exact asks_ofOutcome 0 _

theorem follows_one_reading {call : sig.Call} {next : sig.Reply call → Script sig SystemError Val}
    {reading : sig.Reply call → Except SystemError Val} {answers : List (Answered sig)}
    {rest : Script sig SystemError Val} (reads : ∀ reply, next reply = ofOutcome (reading reply))
    (follows : Follows (.ask call next) answers rest) :
    answers = [] ∨ ∃ reply, answers = [⟨call, reply⟩] :=
  follows_one (asks_one reads) follows

theorem ends_one_reading {call : sig.Call} {next : sig.Reply call → Script sig SystemError Val}
    {reading : sig.Reply call → Except SystemError Val} {answers : List (Answered sig)}
    {outcome : Except SystemError Val} (reads : ∀ reply, next reply = ofOutcome (reading reply))
    (ends : Ends (.ask call next) answers outcome) :
    ∃ reply, answers = [⟨call, reply⟩] ∧ outcome = reading reply := by
  obtain ⟨reply, same, ended⟩ := ends_one (asks_one reads) ends
  exact ⟨reply, same, (ofOutcome_injective ((reads reply).symm.trans ended)).symm⟩

end Outcomes

end CmsisCpp
