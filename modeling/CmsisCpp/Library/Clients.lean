import Mathlib.Algebra.BigOperators.Group.Finset.Piecewise
import Mathlib.Algebra.Order.BigOperators.Group.Finset
import Mathlib.Data.Finset.Card
import CmsisCpp.Library.CallScript
import CmsisCpp.Library.History
import CmsisCpp.Library.Refinement

/-! # Threads that run scripts against one service

Any number of threads start operations, each of which is a script; a step answers
the next call of one script, in an order that nothing constrains.  The service
says which answers a call can get now and what they leave of its state: a call
that waits is one that cannot be answered yet.

Operations are numbered in the order in which they start.  The history records
every answer under the number of its operation, so that what an operation did is
read off its own part of the history, and what all did is a sum over them. -/
set_option autoImplicit false

namespace Clients

open CallScript ActionSystem

section Definitions
variable (sig : Signature) (Thread Shared Op Err Val : Type)

structure Service where
  initial : Shared
  answer : Shared → Thread → (call : sig.Call) → sig.Reply call → Option Shared

structure Answered where
  call : sig.Call
  reply : sig.Reply call

structure Config where
  shared : Shared
  ops : List (Thread × Op)
  running : Thread → Option (Nat × Script sig Err Val)
  history : List (Nat × Thread × Answered sig)
  outcome : Nat → Option (Except Err Val)

/-- The reply to the next call is the entry of a table for it. -/
inductive Action
  | start (t : Thread) (op : Op)
  | next (t : Thread) (reply : (call : sig.Call) → sig.Reply call)
  | finish (t : Thread)

end Definitions

section Step
variable {sig : Signature} {Thread Shared Op Err Val : Type} [DecidableEq Thread]

namespace Config

def begin (body : Op → Script sig Err Val) (c : Config sig Thread Shared Op Err Val) (t : Thread)
    (op : Op) : Config sig Thread Shared Op Err Val :=
  { c with
    ops := c.ops ++ [(t, op)]
    running := Function.update c.running t (some (c.ops.length, body op)) }

def proceed (c : Config sig Thread Shared Op Err Val) (t : Thread) (i : Nat) (shared : Shared)
    (answered : Answered sig) (rest : Script sig Err Val) :
    Config sig Thread Shared Op Err Val :=
  { c with
    shared := shared
    running := Function.update c.running t (some (i, rest))
    history := c.history ++ [(i, t, answered)] }

def complete (c : Config sig Thread Shared Op Err Val) (t : Thread) (i : Nat)
    (outcome : Except Err Val) : Config sig Thread Shared Op Err Val :=
  { c with
    running := Function.update c.running t none
    outcome := Function.update c.outcome i (some outcome) }

def step (service : Service sig Thread Shared) (body : Op → Script sig Err Val)
    (c : Config sig Thread Shared Op Err Val) :
    Action sig Thread Op → Option (Config sig Thread Shared Op Err Val)
  | .start t op =>
      match c.running t with
      | none => some (c.begin body t op)
      | some _ => none
  | .next t reply =>
      match c.running t with
      | some (i, .ask call next) =>
          (service.answer c.shared t call (reply call)).map fun shared =>
            c.proceed t i shared ⟨call, reply call⟩ (next (reply call))
      | _ => none
  | .finish t =>
      match c.running t with
      | some (i, .done value) => some (c.complete t i (.ok value))
      | some (i, .throw error) => some (c.complete t i (.error error))
      | _ => none

end Config

def system (service : Service sig Thread Shared) (body : Op → Script sig Err Val) :
    ActionSystem (Config sig Thread Shared Op Err Val) (Action sig Thread Op) where
  initial := ⟨service.initial, [], fun _ => none, [], fun _ => none⟩
  step := Config.step service body

omit [DecidableEq Thread] in
def Service.system (service : Service sig Thread Shared) :
    ActionSystem Shared (Thread × Answered sig) where
  initial := service.initial
  step shared entry := service.answer shared entry.1 entry.2.call entry.2.reply

end Step

/-! ## What a script has done -/

section Follows
variable {sig : Signature} {Err Val : Type}

/-- The script has received the answers and has the rest still to run. -/
inductive Follows : Script sig Err Val → List (Answered sig) → Script sig Err Val → Prop
  | start (script : Script sig Err Val) : Follows script [] script
  | answer {call : sig.Call} {next : sig.Reply call → Script sig Err Val}
      {reply : sig.Reply call} {answers : List (Answered sig)} {rest : Script sig Err Val}
      (later : Follows (next reply) answers rest) :
      Follows (.ask call next) (⟨call, reply⟩ :: answers) rest

theorem Follows.snoc {script : Script sig Err Val} {answers : List (Answered sig)}
    {call : sig.Call} {next : sig.Reply call → Script sig Err Val} (reply : sig.Reply call)
    (follows : Follows script answers (.ask call next)) :
    Follows script (answers ++ [⟨call, reply⟩]) (next reply) := by
  generalize reached : Script.ask call next = rest at follows
  induction follows with
  | start script =>
      subst reached
      exact .answer (.start (next reply))
  | answer _ ih => exact .answer (ih reached)

def ofOutcome : Except Err Val → Script sig Err Val
  | .ok value => .done value
  | .error error => .throw error

/-- The answers are those of one complete execution with that outcome. -/
abbrev Ends (script : Script sig Err Val) (answers : List (Answered sig))
    (outcome : Except Err Val) : Prop :=
  Follows script answers (ofOutcome outcome)

section Inversion
variable {answers : List (Answered sig)} {rest : Script sig Err Val} {outcome : Except Err Val}

theorem follows_done {value : Val} (follows : Follows (.done value) answers rest) :
    answers = [] ∧ rest = .done value := by
  cases follows
  exact ⟨rfl, rfl⟩

theorem follows_throw {error : Err} (follows : Follows (.throw error) answers rest) :
    answers = [] ∧ rest = .throw error := by
  cases follows
  exact ⟨rfl, rfl⟩

theorem follows_ask {call : sig.Call} {next : sig.Reply call → Script sig Err Val}
    (follows : Follows (.ask call next) answers rest) :
    answers = [] ∧ rest = .ask call next ∨
      ∃ reply later, answers = ⟨call, reply⟩ :: later ∧ Follows (next reply) later rest := by
  cases follows with
  | start => exact .inl ⟨rfl, rfl⟩
  | answer later => exact .inr ⟨_, _, rfl, later⟩

theorem ofOutcome_injective {outcome' : Except Err Val}
    (same : (ofOutcome outcome : Script sig Err Val) = ofOutcome outcome') : outcome = outcome' := by
  cases outcome <;> cases outcome' <;> simp_all [ofOutcome]

theorem ends_done {value : Val} (ends : Ends (.done value : Script sig Err Val) answers outcome) :
    answers = [] ∧ outcome = .ok value := by
  obtain ⟨none, same⟩ := follows_done ends
  exact ⟨none, ofOutcome_injective same⟩

theorem ends_throw {error : Err} (ends : Ends (.throw error : Script sig Err Val) answers outcome) :
    answers = [] ∧ outcome = .error error := by
  obtain ⟨none, same⟩ := follows_throw ends
  exact ⟨none, ofOutcome_injective same⟩

theorem ends_ask {call : sig.Call} {next : sig.Reply call → Script sig Err Val}
    (ends : Ends (.ask call next) answers outcome) :
    ∃ reply later, answers = ⟨call, reply⟩ :: later ∧ Ends (next reply) later outcome := by
  rcases follows_ask ends with ⟨_, same⟩ | answered
  · cases outcome <;> simp [ofOutcome] at same
  · exact answered

end Inversion

theorem follows_bind_ask {Val' : Type} {script : Val → Script sig Err Val'} {call : sig.Call}
    {next : sig.Reply call → Script sig Err Val} {answers : List (Answered sig)}
    {rest : Script sig Err Val'} (follows : Follows ((Script.ask call next).bind script) answers rest) :
    answers = [] ∨ ∃ (reply : sig.Reply call) (later : List (Answered sig)),
      answers = ⟨call, reply⟩ :: later ∧ Follows ((next reply).bind script) later rest := by
  rcases follows_ask follows with ⟨none, _⟩ | answered
  · exact .inl none
  · exact .inr answered

theorem ends_bind_ask {Val' : Type} {script : Val → Script sig Err Val'} {call : sig.Call}
    {next : sig.Reply call → Script sig Err Val} {answers : List (Answered sig)}
    {outcome : Except Err Val'} (ends : Ends ((Script.ask call next).bind script) answers outcome) :
    ∃ (reply : sig.Reply call) (later : List (Answered sig)),
      answers = ⟨call, reply⟩ :: later ∧ Ends ((next reply).bind script) later outcome :=
  ends_ask ends

/-- The script asks at most `n` calls. -/
inductive Asks : Nat → Script sig Err Val → Prop
  | done (n : Nat) (value : Val) : Asks n (.done value)
  | throw (n : Nat) (error : Err) : Asks n (.throw error)
  | ask {n : Nat} {call : sig.Call} {next : sig.Reply call → Script sig Err Val}
      (asks : ∀ reply, Asks n (next reply)) : Asks (n + 1) (.ask call next)

theorem Asks.next {n : Nat} {call : sig.Call} {next : sig.Reply call → Script sig Err Val}
    (asks : Asks (n + 1) (.ask call next)) (reply : sig.Reply call) : Asks n (next reply) := by
  cases asks with
  | ask each => exact each reply

theorem Asks.length_le {n : Nat} {script rest : Script sig Err Val} {answers : List (Answered sig)}
    (asks : Asks n script) (follows : Follows script answers rest) : answers.length ≤ n := by
  induction asks generalizing answers with
  | done n value =>
      rw [(follows_done follows).1]
      exact Nat.zero_le n
  | throw n error =>
      rw [(follows_throw follows).1]
      exact Nat.zero_le n
  | ask _ ih =>
      rcases follows_ask follows with ⟨rfl, _⟩ | ⟨reply, later, rfl, after⟩
      · exact Nat.zero_le _
      · exact Nat.succ_le_succ (ih reply after)

theorem asks_ofOutcome (n : Nat) (outcome : Except Err Val) :
    Asks n (ofOutcome outcome : Script sig Err Val) := by
  cases outcome with
  | ok value => exact .done n value
  | error error => exact .throw n error

section OneCall
variable {call : sig.Call} {next : sig.Reply call → Script sig Err Val}
  {rest : Script sig Err Val} {answers : List (Answered sig)} {outcome : Except Err Val}

theorem follows_one (asks : Asks 1 (.ask call next)) (follows : Follows (.ask call next) answers rest) :
    answers = [] ∨ ∃ reply, answers = [⟨call, reply⟩] := by
  rcases follows_ask follows with ⟨none, _⟩ | ⟨reply, later, same, after⟩
  · exact .inl none
  · have none := List.length_eq_zero_iff.mp (Nat.le_zero.mp ((asks.next reply).length_le after))
    exact .inr ⟨reply, by rw [same, none]⟩

theorem ends_one (asks : Asks 1 (.ask call next)) (ends : Ends (.ask call next) answers outcome) :
    ∃ reply, answers = [⟨call, reply⟩] ∧ next reply = ofOutcome outcome := by
  obtain ⟨reply, later, same, after⟩ := ends_ask ends
  have none := List.length_eq_zero_iff.mp (Nat.le_zero.mp ((asks.next reply).length_le after))
  subst none
  refine ⟨reply, same, ?_⟩
  cases ended : next reply with
  | done value =>
      rw [ended] at after
      exact (follows_done after).2.symm
  | throw error =>
      rw [ended] at after
      exact (follows_throw after).2.symm
  | ask call' next' =>
      have stops := asks.next reply
      rw [ended] at stops
      cases stops

end OneCall

section Sum
variable {left right : Signature} {Err' Val' : Type} {error : Err → Err'} {value : Val → Val'}
  {answers : List (Answered (left.sum right))} {rest : Script (left.sum right) Err' Val'}
  {outcome : Except Err' Val'}

theorem ends_inl {call : left.Call} {next : left.Reply call → Script left Err Val}
    (ends : Ends ((Script.ask call next).inl error value : Script (left.sum right) Err' Val')
      answers outcome) :
    ∃ (reply : left.Reply call) (later : List (Answered (left.sum right))),
      answers = ⟨.inl call, reply⟩ :: later ∧ Ends ((next reply).inl error value) later outcome :=
  ends_ask ends

theorem follows_inr {call : right.Call} {next : right.Reply call → Script right Err Val}
    (follows : Follows ((Script.ask call next).inr error value : Script (left.sum right) Err' Val')
      answers rest) :
    answers = [] ∨ ∃ (reply : right.Reply call) (later : List (Answered (left.sum right))),
      answers = ⟨.inr call, reply⟩ :: later ∧ Follows ((next reply).inr error value) later rest := by
  rcases follows_ask follows with ⟨none, _⟩ | answered
  · exact .inl none
  · exact .inr answered

theorem ends_inr {call : right.Call} {next : right.Reply call → Script right Err Val}
    (ends : Ends ((Script.ask call next).inr error value : Script (left.sum right) Err' Val')
      answers outcome) :
    ∃ (reply : right.Reply call) (later : List (Answered (left.sum right))),
      answers = ⟨.inr call, reply⟩ :: later ∧ Ends ((next reply).inr error value) later outcome :=
  ends_ask ends

def Answered.inl (a : Answered left) : Answered (left.sum right) := ⟨.inl a.call, a.reply⟩

def Answered.inr (a : Answered right) : Answered (left.sum right) := ⟨.inr a.call, a.reply⟩

/-- What an embedded script has done is what the script has done. -/
theorem follows_of_inl {script : Script left Err Val}
    (follows : Follows (script.inl error value : Script (left.sum right) Err' Val') answers rest) :
    ∃ answers' rest', Follows script answers' rest' ∧ answers = answers'.map Answered.inl ∧
      rest = rest'.inl error value := by
  induction answers generalizing script with
  | nil =>
      refine ⟨[], script, .start script, rfl, ?_⟩
      cases script <;> cases follows <;> rfl
  | cons a answers ih =>
      cases script with
      | done v => cases follows
      | throw e => cases follows
      | ask call next =>
          cases follows with
          | @answer _ _ reply _ _ later =>
              obtain ⟨answers', rest', follows', same, isRest⟩ := ih later
              exact ⟨⟨call, reply⟩ :: answers', rest', .answer follows', by rw [same]; rfl, isRest⟩

theorem follows_of_inr {script : Script right Err Val}
    (follows : Follows (script.inr error value : Script (left.sum right) Err' Val') answers rest) :
    ∃ answers' rest', Follows script answers' rest' ∧ answers = answers'.map Answered.inr ∧
      rest = rest'.inr error value := by
  induction answers generalizing script with
  | nil =>
      refine ⟨[], script, .start script, rfl, ?_⟩
      cases script <;> cases follows <;> rfl
  | cons a answers ih =>
      cases script with
      | done v => cases follows
      | throw e => cases follows
      | ask call next =>
          cases follows with
          | @answer _ _ reply _ _ later =>
              obtain ⟨answers', rest', follows', same, isRest⟩ := ih later
              exact ⟨⟨call, reply⟩ :: answers', rest', .answer follows', by rw [same]; rfl, isRest⟩

def embedded (error : Err → Err') (value : Val → Val') : Except Err Val → Except Err' Val'
  | .ok v => .ok (value v)
  | .error e => .error (error e)

theorem ends_of_inl {script : Script left Err Val}
    (ends : Ends (script.inl error value : Script (left.sum right) Err' Val') answers outcome) :
    ∃ answers' outcome', Ends script answers' outcome' ∧ answers = answers'.map Answered.inl ∧
      outcome = embedded error value outcome' := by
  obtain ⟨answers', rest', follows, same, isRest⟩ := follows_of_inl ends
  cases rest' with
  | done v => exact ⟨answers', .ok v, follows, same, ofOutcome_injective isRest⟩
  | throw e => exact ⟨answers', .error e, follows, same, ofOutcome_injective isRest⟩
  | ask call next => cases outcome <;> simp [ofOutcome, Script.inl] at isRest

theorem ends_of_inr {script : Script right Err Val}
    (ends : Ends (script.inr error value : Script (left.sum right) Err' Val') answers outcome) :
    ∃ answers' outcome', Ends script answers' outcome' ∧ answers = answers'.map Answered.inr ∧
      outcome = embedded error value outcome' := by
  obtain ⟨answers', rest', follows, same, isRest⟩ := follows_of_inr ends
  cases rest' with
  | done v => exact ⟨answers', .ok v, follows, same, ofOutcome_injective isRest⟩
  | throw e => exact ⟨answers', .error e, follows, same, ofOutcome_injective isRest⟩
  | ask call next => cases outcome <;> simp [ofOutcome, Script.inr] at isRest

theorem Asks.inl {n : Nat} {script : Script left Err Val} (asks : Asks n script) :
    Asks n (script.inl error value : Script (left.sum right) Err' Val') := by
  induction asks with
  | done n v => exact .done n (value v)
  | throw n e => exact .throw n (error e)
  | ask _ ih => exact .ask ih

theorem Asks.inr {n : Nat} {script : Script right Err Val} (asks : Asks n script) :
    Asks n (script.inr error value : Script (left.sum right) Err' Val') := by
  induction asks with
  | done n v => exact .done n (value v)
  | throw n e => exact .throw n (error e)
  | ask _ ih => exact .ask ih

end Sum

end Follows

/-! ## Every run explains its outcomes -/

section Runs
variable {sig : Signature} {Thread Shared Op Err Val : Type}

def Config.answers (c : Config sig Thread Shared Op Err Val) (i : Nat) : List (Answered sig) :=
  (History.of i c.history).map Prod.snd

structure Explained (service : Service sig Thread Shared) (body : Op → Script sig Err Val)
    (c : Config sig Thread Shared Op Err Val) : Prop where
  legal : Run service.system Unrestricted (c.history.map Prod.snd) c.shared
  started : ∀ i t a, (i, t, a) ∈ c.history → ∃ op, c.ops[i]? = some (t, op)
  running : ∀ t i rest, c.running t = some (i, rest) →
    c.outcome i = none ∧ ∃ op, c.ops[i]? = some (t, op) ∧ Follows (body op) (c.answers i) rest
  completed : ∀ i outcome, c.outcome i = some outcome →
    ∃ t op, c.ops[i]? = some (t, op) ∧ Ends (body op) (c.answers i) outcome
  all : ∀ i t op, c.ops[i]? = some (t, op) →
    (∃ outcome, c.outcome i = some outcome) ∨ ∃ rest, c.running t = some (i, rest)

variable {service : Service sig Thread Shared} {body : Op → Script sig Err Val}
  {c : Config sig Thread Shared Op Err Val} {t : Thread}

theorem Explained.answers_of_unstarted {i : Nat} (explained : Explained service body c)
    (unstarted : c.ops.length ≤ i) : c.answers i = [] := by
  rw [Config.answers, List.map_eq_nil_iff, History.of, List.map_eq_nil_iff, List.filter_eq_nil_iff]
  rintro ⟨j, t, a⟩ member
  obtain ⟨op, found⟩ := explained.started j t a member
  have bound := (List.getElem?_eq_some_iff.mp found).1
  simp only [decide_eq_true_eq]
  omega

theorem kept_of_append {Item : Type} {items more : List Item} {i : Nat} {item : Item}
    (found : items[i]? = some item) : (items ++ more)[i]? = some item := by
  rw [List.getElem?_append_left (List.getElem?_eq_some_iff.mp found).1, found]

theorem answers_append (history : List (Nat × Thread × Answered sig)) (i j : Nat)
    (a : Answered sig) (t : Thread) :
    (History.of i (history ++ [(j, t, a)])).map Prod.snd =
      (History.of i history).map Prod.snd ++ if j = i then [a] else [] := by
  rw [History.of_append, List.map_append]
  by_cases same : j = i <;> simp [History.of, same]

theorem Explained.ends {i : Nat} {op : Op} {outcome : Except Err Val}
    (explained : Explained service body c) (found : c.ops[i]? = some (t, op))
    (ended : c.outcome i = some outcome) : Ends (body op) (c.answers i) outcome := by
  obtain ⟨_, op', found', ends⟩ := explained.completed i outcome ended
  rw [found] at found'
  cases found'
  exact ends

/-- The operations of a thread that is between two of them have all ended. -/
theorem Explained.ended_of_idle {i : Nat} {op : Op} (explained : Explained service body c)
    (idle : c.running t = none) (found : c.ops[i]? = some (t, op)) :
    ∃ outcome, c.outcome i = some outcome ∧ Ends (body op) (c.answers i) outcome := by
  rcases explained.all i t op found with ⟨outcome, ended⟩ | ⟨rest, inProgress⟩
  · exact ⟨outcome, ended, explained.ends found ended⟩
  · rw [idle] at inProgress
    contradiction

theorem mem_answers {i : Nat} {t' : Thread} {a : Answered sig} (member : (i, t', a) ∈ c.history) :
    a ∈ c.answers i := by
  simp only [Config.answers, History.of, List.mem_map, List.mem_filter, decide_eq_true_eq]
  exact ⟨(t', a), ⟨(i, t', a), ⟨member, rfl⟩, rfl⟩, rfl⟩

theorem exists_of_mem_answers {i : Nat} {a : Answered sig} (member : a ∈ c.answers i) :
    ∃ t', (i, t', a) ∈ c.history := by
  simp only [Config.answers, History.of, List.mem_map, List.mem_filter, decide_eq_true_eq] at member
  obtain ⟨⟨t', a'⟩, ⟨⟨i', entry⟩, ⟨inHistory, rfl⟩, rfl⟩, rfl⟩ := member
  exact ⟨t', inHistory⟩

theorem Explained.mem_history_iff (explained : Explained service body c) {i : Nat} {op : Op}
    {a : Answered sig} (found : c.ops[i]? = some (t, op)) :
    (i, t, a) ∈ c.history ↔ a ∈ c.answers i := by
  constructor
  · exact mem_answers
  · intro member
    obtain ⟨t', inHistory⟩ := exists_of_mem_answers member
    obtain ⟨op', found'⟩ := explained.started i t' a inHistory
    rw [found] at found'
    cases found'
    exact inHistory

theorem Explained.follows (explained : Explained service body c) {i : Nat} {op : Op}
    (found : c.ops[i]? = some (t, op)) : ∃ rest, Follows (body op) (c.answers i) rest := by
  rcases explained.all i t op found with ⟨outcome, ended⟩ | ⟨rest, inProgress⟩
  · exact ⟨_, explained.ends found ended⟩
  · obtain ⟨_, op', found', follows⟩ := explained.running t i rest inProgress
    rw [found] at found'
    cases found'
    exact ⟨rest, follows⟩

/-- Operations of one call each are answered once each. -/
theorem Explained.answeredOnce (explained : Explained service body c)
    (asks : ∀ op, Asks 1 (body op)) : (c.history.map Prod.fst).Nodup := by
  apply List.nodup_iff_count_le_one.mpr
  intro i
  have same : (c.history.map Prod.fst).count i = (c.answers i).length := by
    rw [Config.answers, History.of, List.length_map, List.length_map, List.count_eq_countP,
      List.countP_map, List.countP_eq_length_filter]
    congr 1
  rw [same]
  rcases lt_or_ge i c.ops.length with started | unstarted
  · obtain ⟨rest, follows⟩ := explained.follows (List.getElem?_eq_getElem started)
    exact (asks _).length_le follows
  · rw [explained.answers_of_unstarted unstarted]
    exact Nat.zero_le 1

variable [DecidableEq Thread]

theorem Explained.begin {op : Op} (explained : Explained service body c)
    (idle : c.running t = none) : Explained service body (c.begin body t op) where
  legal := explained.legal
  started i t' a member := by
    obtain ⟨op', found⟩ := explained.started i t' a member
    exact ⟨op', kept_of_append found⟩
  running t' i rest inProgress := by
    by_cases same : t' = t
    · subst same
      simp only [Config.begin, Function.update_self, Option.some.injEq, Prod.mk.injEq] at inProgress
      obtain ⟨rfl, rfl⟩ := inProgress
      have unstarted := explained.answers_of_unstarted (le_refl c.ops.length)
      refine ⟨?_, op, by simp [Config.begin], ?_⟩
      · cases found : c.outcome c.ops.length with
        | none => exact found
        | some outcome =>
            obtain ⟨_, _, within, _⟩ := explained.completed _ _ found
            simp at within
      · change Follows (body op) (c.answers c.ops.length) (body op)
        rw [unstarted]
        exact .start _
    · simp only [Config.begin, Function.update_of_ne same] at inProgress
      obtain ⟨open_, op', found, follows⟩ := explained.running t' i rest inProgress
      exact ⟨open_, op', kept_of_append found, follows⟩
  completed i outcome ended := by
    obtain ⟨t', op', found, ends⟩ := explained.completed i outcome ended
    exact ⟨t', op', kept_of_append found, ends⟩
  all i t' op' found := by
    rcases lt_or_ge i c.ops.length with old | new
    · simp only [Config.begin, List.getElem?_append_left old] at found
      rcases explained.all i t' op' found with ended | ⟨rest, inProgress⟩
      · exact .inl ended
      · have other : t' ≠ t := by
          rintro rfl
          rw [idle] at inProgress
          contradiction
        exact .inr ⟨rest, by simpa only [Config.begin, Function.update_of_ne other] using inProgress⟩
    · have isLast : i = c.ops.length := by
        have bound := (List.getElem?_eq_some_iff.mp found).1
        simp only [Config.begin, List.length_append, List.length_singleton] at bound
        omega
      subst isLast
      simp only [Config.begin, List.getElem?_concat_length, Option.some.injEq,
        Prod.mk.injEq] at found
      obtain ⟨rfl, rfl⟩ := found
      exact .inr ⟨body op, by simp [Config.begin]⟩

section Proceed
variable {i : Nat} {call : sig.Call} {next : sig.Reply call → Script sig Err Val}
  {reply : sig.Reply call} {shared : Shared}

theorem answers_proceed_self (rest : Script sig Err Val) (a : Answered sig) :
    (c.proceed t i shared a rest).answers i = c.answers i ++ [a] := by
  rw [Config.answers, Config.answers]
  simp only [Config.proceed]
  rw [answers_append, if_pos rfl]

theorem answers_proceed_other {j : Nat} (ne : j ≠ i) (rest : Script sig Err Val)
    (a : Answered sig) : (c.proceed t i shared a rest).answers j = c.answers j := by
  rw [Config.answers, Config.answers]
  simp only [Config.proceed]
  rw [answers_append, if_neg (Ne.symm ne), List.append_nil]

theorem Explained.proceed (explained : Explained service body c)
    (asks : c.running t = some (i, .ask call next))
    (answered : service.answer c.shared t call reply = some shared) :
    Explained service body (c.proceed t i shared ⟨call, reply⟩ (next reply)) := by
  obtain ⟨isOpen, op, started, follows⟩ := explained.running t i _ asks
  have apart : ∀ j t' op', c.ops[j]? = some (t', op') → t' ≠ t → j ≠ i := by
    rintro j t' op' found ne rfl
    rw [started, Option.some.injEq, Prod.mk.injEq] at found
    exact ne found.1.symm
  constructor
  · have taken : service.system.step c.shared (t, ⟨call, reply⟩) = some shared := answered
    have extended := explained.legal.step trivial taken
    simpa [Config.proceed] using extended
  · intro j t' a member
    rcases List.mem_append.mp member with old | new
    · exact explained.started j t' a old
    · simp only [List.mem_singleton, Prod.mk.injEq] at new
      obtain ⟨rfl, rfl, _⟩ := new
      exact ⟨op, started⟩
  · intro t' j rest inProgress
    by_cases same : t' = t
    · subst same
      simp only [Config.proceed, Function.update_self, Option.some.injEq,
        Prod.mk.injEq] at inProgress
      obtain ⟨rfl, rfl⟩ := inProgress
      refine ⟨isOpen, op, started, ?_⟩
      rw [answers_proceed_self]
      exact follows.snoc reply
    · simp only [Config.proceed, Function.update_of_ne same] at inProgress
      obtain ⟨open', op', found, follows'⟩ := explained.running t' j rest inProgress
      refine ⟨open', op', found, ?_⟩
      rwa [answers_proceed_other (apart j t' op' found same)]
  · intro j outcome ended
    obtain ⟨t', op', found, ends⟩ := explained.completed j outcome ended
    refine ⟨t', op', found, ?_⟩
    rw [answers_proceed_other]
    · exact ends
    · rintro rfl
      change c.outcome j = some outcome at ended
      rw [isOpen] at ended
      contradiction
  · intro j t' op' found
    rcases explained.all j t' op' found with ended | ⟨rest, inProgress⟩
    · exact .inl ended
    · by_cases same : t' = t
      · subst same
        rw [asks, Option.some.injEq, Prod.mk.injEq] at inProgress
        obtain ⟨rfl, _⟩ := inProgress
        exact .inr ⟨next reply, by simp [Config.proceed]⟩
      · exact .inr ⟨rest, by simpa only [Config.proceed, Function.update_of_ne same] using inProgress⟩

theorem Explained.complete {outcome : Except Err Val} (explained : Explained service body c)
    (ends : c.running t = some (i, ofOutcome outcome)) :
    Explained service body (c.complete t i outcome) := by
  obtain ⟨_, op, started, follows⟩ := explained.running t i _ ends
  constructor
  · exact explained.legal
  · exact explained.started
  · intro t' j rest inProgress
    by_cases same : t' = t
    · subst same
      simp [Config.complete] at inProgress
    · simp only [Config.complete, Function.update_of_ne same] at inProgress
      obtain ⟨isOpen, op', found, follows'⟩ := explained.running t' j rest inProgress
      refine ⟨?_, op', found, follows'⟩
      have apart : j ≠ i := by
        rintro rfl
        rw [started, Option.some.injEq, Prod.mk.injEq] at found
        exact same found.1.symm
      simpa only [Config.complete, Function.update_of_ne apart] using isOpen
  · intro j outcome' ended
    by_cases same : j = i
    · subst same
      simp only [Config.complete, Function.update_self, Option.some.injEq] at ended
      subst ended
      exact ⟨t, op, started, follows⟩
    · simp only [Config.complete, Function.update_of_ne same] at ended
      exact explained.completed j outcome' ended
  · intro j t' op' found
    by_cases same : j = i
    · subst same
      exact .inl ⟨outcome, by simp [Config.complete]⟩
    · rcases explained.all j t' op' found with ⟨outcome', ended⟩ | ⟨rest, inProgress⟩
      · exact .inl ⟨outcome', by simpa only [Config.complete, Function.update_of_ne same] using ended⟩
      · have other : t' ≠ t := by
          rintro rfl
          rw [ends, Option.some.injEq, Prod.mk.injEq] at inProgress
          exact same inProgress.1.symm
        exact .inr ⟨rest, by simpa only [Config.complete, Function.update_of_ne other] using inProgress⟩

end Proceed

theorem Explained.step {c' : Config sig Thread Shared Op Err Val} {a : Action sig Thread Op}
    (explained : Explained service body c) (stepped : c.step service body a = some c') :
    Explained service body c' := by
  cases a with
  | start t op =>
      simp only [Config.step] at stepped
      split at stepped
      · rename_i idle
        cases stepped
        exact explained.begin idle
      · contradiction
  | next t reply =>
      simp only [Config.step] at stepped
      split at stepped
      · rename_i i call next asks
        obtain ⟨shared, answered, rfl⟩ := Option.map_eq_some_iff.mp stepped
        exact explained.proceed asks answered
      · contradiction
  | finish t =>
      simp only [Config.step] at stepped
      split at stepped
      · rename_i i value ends
        cases stepped
        exact @Explained.complete _ _ _ _ _ _ _ _ _ _ _ _ (.ok value) explained ends
      · rename_i i error ends
        cases stepped
        exact @Explained.complete _ _ _ _ _ _ _ _ _ _ _ _ (.error error) explained ends
      · contradiction

theorem run_explained {allowed : Config sig Thread Shared Op Err Val → Action sig Thread Op → Prop}
    {acts : List (Action sig Thread Op)} (run : Run (system service body) allowed acts c) :
    Explained service body c := by
  refine run.invariant (Explained service body) ?_ ?_
  · constructor
    · exact .initial
    · intro i t a member
      contradiction
    · intro t i rest inProgress
      contradiction
    · intro i outcome ended
      contradiction
    · intro i t op found
      simp [system] at found
  · intro c a c' explained _ stepped
    exact explained.step stepped

/-- What every answer keeps of the history and the state of the service. -/
theorem run_tracks {allowed : Config sig Thread Shared Op Err Val → Action sig Thread Op → Prop}
    {acts : List (Action sig Thread Op)} (run : Run (system service body) allowed acts c)
    (Inv : List (Nat × Thread × Answered sig) → Shared → Prop) (base : Inv [] service.initial)
    (preserved : ∀ history shared i t call reply shared', Inv history shared →
      service.answer shared t call reply = some shared' →
        Inv (history ++ [(i, t, ⟨call, reply⟩)]) shared') : Inv c.history c.shared := by
  refine run.invariant (fun c => Inv c.history c.shared) base ?_
  intro c a c' inv _ stepped
  change Config.step service body c a = some c' at stepped
  cases a with
  | start t op =>
      simp only [Config.step] at stepped
      split at stepped
      · cases stepped
        exact inv
      · contradiction
  | next t reply =>
      simp only [Config.step] at stepped
      split at stepped
      · obtain ⟨shared, answered, rfl⟩ := Option.map_eq_some_iff.mp stepped
        exact preserved _ _ _ t _ _ shared inv answered
      · contradiction
  | finish t =>
      simp only [Config.step] at stepped
      split at stepped
      · cases stepped
        exact inv
      · cases stepped
        exact inv
      · contradiction

/-- A thread is answered in the order of its operations. -/
structure Ordered (c : Config sig Thread Shared Op Err Val) : Prop where
  history : c.history.Pairwise fun e e' => e.2.1 = e'.2.1 → e.1 ≤ e'.1
  current : ∀ t i rest, c.running t = some (i, rest) → ∀ e ∈ c.history, e.2.1 = t → e.1 ≤ i

theorem Ordered.step {c' : Config sig Thread Shared Op Err Val} {a : Action sig Thread Op}
    (explained : Explained service body c) (ordered : Ordered c)
    (stepped : c.step service body a = some c') : Ordered c' := by
  cases a with
  | start t op =>
      simp only [Config.step] at stepped
      split at stepped
      · cases stepped
        refine ⟨ordered.history, ?_⟩
        intro t' i rest inProgress e member isT
        by_cases same : t' = t
        · subst same
          simp only [Config.begin, Function.update_self, Option.some.injEq,
            Prod.mk.injEq] at inProgress
          obtain ⟨op', found⟩ := explained.started e.1 e.2.1 e.2.2 member
          have earlier := (List.getElem?_eq_some_iff.mp found).1
          omega
        · simp only [Config.begin, Function.update_of_ne same] at inProgress
          exact ordered.current t' i rest inProgress e member isT
      · contradiction
  | next t reply =>
      simp only [Config.step] at stepped
      split at stepped
      · rename_i i call next asks
        obtain ⟨shared, answered, rfl⟩ := Option.map_eq_some_iff.mp stepped
        constructor
        · refine List.pairwise_append.mpr ⟨ordered.history, List.pairwise_singleton _ _, ?_⟩
          intro e member e' isLast sameThread
          cases List.mem_singleton.mp isLast
          exact ordered.current t i _ asks e member sameThread
        · intro t' j rest inProgress e member isT
          by_cases same : t' = t
          · subst same
            simp only [Config.proceed, Function.update_self, Option.some.injEq,
              Prod.mk.injEq] at inProgress
            rcases List.mem_append.mp member with old | new
            · have before := ordered.current t' i _ asks e old isT
              omega
            · cases List.mem_singleton.mp new
              exact inProgress.1.le
          · simp only [Config.proceed, Function.update_of_ne same] at inProgress
            rcases List.mem_append.mp member with old | new
            · exact ordered.current t' j rest inProgress e old isT
            · cases List.mem_singleton.mp new
              exact absurd isT.symm same
      · contradiction
  | finish t =>
      have kept : ∀ i outcome, Ordered (c.complete t i outcome) := by
        intro i outcome
        refine ⟨ordered.history, ?_⟩
        intro t' j rest inProgress
        by_cases same : t' = t
        · subst same
          simp [Config.complete] at inProgress
        · simp only [Config.complete, Function.update_of_ne same] at inProgress
          exact ordered.current t' j rest inProgress
      simp only [Config.step] at stepped
      split at stepped
      · cases stepped
        exact kept _ _
      · cases stepped
        exact kept _ _
      · contradiction

theorem run_ordered {allowed : Config sig Thread Shared Op Err Val → Action sig Thread Op → Prop}
    {acts : List (Action sig Thread Op)} (run : Run (system service body) allowed acts c) :
    Ordered c := by
  refine run.invariant_under (Explained service body) Ordered run_explained ?_ ?_
  · constructor
    · exact .nil
    · intro t i rest inProgress
      contradiction
  · intro c a c' explained ordered _ stepped
    exact ordered.step explained stepped

/-! What is read off the entries of a history, each item with the number of its entry. -/

section Readings
variable {Item : Type} {read : Nat × Thread × Answered sig → Option Item} {number : Item → Nat}

omit [DecidableEq Thread] in
theorem filterMap_numbers (numbered : ∀ entry item, read entry = some item → number item = entry.1)
    (history : List (Nat × Thread × Answered sig)) :
    ((history.filterMap read).map number).Sublist (history.map Prod.fst) := by
  induction history with
  | nil => exact .slnil
  | cons entry rest ih =>
      cases found : read entry with
      | none =>
          rw [List.filterMap_cons_none found, List.map_cons]
          exact ih.cons _
      | some item =>
          rw [List.filterMap_cons_some found, List.map_cons, List.map_cons, numbered entry item found]
          exact ih.cons_cons _

omit [DecidableEq Thread] in
theorem Ordered.filterMap (ordered : Ordered c) (explained : Explained service body c)
    (numbered : ∀ entry item, read entry = some item → number item = entry.1) :
    (c.history.filterMap read).Pairwise fun item item' =>
      ∀ t op op', c.ops[number item]? = some (t, op) → c.ops[number item']? = some (t, op') →
        number item ≤ number item' := by
  rw [List.pairwise_filterMap]
  refine ordered.history.imp_of_mem ?_
  intro entry entry' member member' inOrder item reads item' reads' t op op' found found'
  obtain ⟨op₁, started⟩ := explained.started entry.1 entry.2.1 entry.2.2 member
  obtain ⟨op₂, started'⟩ := explained.started entry'.1 entry'.2.1 entry'.2.2 member'
  rw [numbered entry item reads, started, Option.some.injEq, Prod.mk.injEq] at found
  rw [numbered entry' item' reads', started', Option.some.injEq, Prod.mk.injEq] at found'
  rw [numbered entry item reads, numbered entry' item' reads']
  exact inOrder (found.1.trans found'.1.symm)

end Readings

end Runs

/-! ## What all operations did together -/

section Sums
variable {sig : Signature} {Thread Shared Op Err Val : Type}

theorem countP_items {Kind : Type} (q : Kind → Bool) {n : Nat} : ∀ entries : List (Nat × Kind),
    (∀ entry ∈ entries, entry.1 < n) → entries.countP (fun entry => q entry.2) =
      ∑ i ∈ Finset.range n, (History.of i entries).countP q := by
  intro entries
  induction entries with
  | nil => simp [History.of]
  | cons entry rest ih =>
      intro within
      obtain ⟨j, kind⟩ := entry
      have inRange : j < n := within (j, kind) List.mem_cons_self
      have each : ∀ i, (History.of i ((j, kind) :: rest)).countP q =
          (History.of i rest).countP q + if j = i then (if q kind then 1 else 0) else 0 := by
        intro i
        by_cases same : j = i
        · simp [History.of, same, List.countP_cons]
        · simp [History.of, same]
      rw [List.countP_cons, ih fun entry member => within entry (List.mem_cons_of_mem _ member)]
      simp only [each, Finset.sum_add_distrib, Finset.sum_ite_eq, Finset.mem_range, if_pos inRange]

variable {service : Service sig Thread Shared} {body : Op → Script sig Err Val}
  {c : Config sig Thread Shared Op Err Val}

def Config.total (c : Config sig Thread Shared Op Err Val)
    (kind : Thread × Answered sig → Bool) : Nat :=
  c.history.countP fun entry => kind entry.2

def Config.part (c : Config sig Thread Shared Op Err Val) (kind : Thread × Answered sig → Bool)
    (i : Nat) : Nat :=
  (History.of i c.history).countP kind

def Config.tally (c : Config sig Thread Shared Op Err Val) (kind : Nat → Bool) : Nat :=
  (List.range c.ops.length).countP kind

theorem Explained.total_eq (explained : Explained service body c)
    (kind : Thread × Answered sig → Bool) :
    c.total kind = ∑ i ∈ Finset.range c.ops.length, c.part kind i := by
  apply countP_items
  rintro ⟨i, t, a⟩ member
  obtain ⟨op, found⟩ := explained.started i t a member
  exact (List.getElem?_eq_some_iff.mp found).1

theorem Config.tally_eq (kind : Nat → Bool) :
    c.tally kind = ∑ i ∈ Finset.range c.ops.length, if kind i then 1 else 0 := by
  rw [Config.tally]
  induction c.ops.length with
  | zero => rfl
  | succ n ih =>
      rw [List.range_succ, List.countP_append, ih, Finset.sum_range_succ, List.countP_singleton]

/-- The answers to one operation all went to its thread. -/
theorem Explained.part_eq {i : Nat} {t : Thread} {op : Op} (explained : Explained service body c)
    (kind : Thread × Answered sig → Bool) (found : c.ops[i]? = some (t, op)) :
    c.part kind i = (c.answers i).countP fun a => kind (t, a) := by
  rw [Config.part, Config.answers, List.countP_map]
  apply List.countP_congr
  rintro ⟨t', a⟩ member
  obtain ⟨⟨j, entry⟩, within, same⟩ := List.mem_map.mp member
  obtain ⟨inHistory, isItem⟩ := List.mem_filter.mp within
  simp only [decide_eq_true_eq] at isItem
  subst same isItem
  obtain ⟨op', found'⟩ := explained.started j t' a inHistory
  rw [found, Option.some.injEq, Prod.mk.injEq] at found'
  rw [Function.comp_apply, found'.1]

theorem Explained.total_eq_sum (explained : Explained service body c)
    {kind : Thread × Answered sig → Bool} {amount : Nat → Nat}
    (each : ∀ i t op, c.ops[i]? = some (t, op) →
      ((c.answers i).countP fun a => kind (t, a)) = amount i) :
    c.total kind = ∑ i ∈ Finset.range c.ops.length, amount i := by
  rw [explained.total_eq]
  apply Finset.sum_congr rfl
  intro i inRange
  have found := List.getElem?_eq_getElem (Finset.mem_range.mp inRange)
  rw [explained.part_eq kind found]
  exact each i _ _ found

theorem Explained.total_le_sum (explained : Explained service body c)
    {kind : Thread × Answered sig → Bool} {bound : Nat → Nat}
    (each : ∀ i t op, c.ops[i]? = some (t, op) →
      ((c.answers i).countP fun a => kind (t, a)) ≤ bound i) :
    c.total kind ≤ ∑ i ∈ Finset.range c.ops.length, bound i := by
  rw [explained.total_eq]
  apply Finset.sum_le_sum
  intro i inRange
  have found := List.getElem?_eq_getElem (Finset.mem_range.mp inRange)
  rw [explained.part_eq kind found]
  exact each i _ _ found

theorem Explained.sum_le_total (explained : Explained service body c)
    {kind : Thread × Answered sig → Bool} {bound : Nat → Nat}
    (each : ∀ i t op, c.ops[i]? = some (t, op) →
      bound i ≤ (c.answers i).countP fun a => kind (t, a)) :
    ∑ i ∈ Finset.range c.ops.length, bound i ≤ c.total kind := by
  rw [explained.total_eq]
  apply Finset.sum_le_sum
  intro i inRange
  have found := List.getElem?_eq_getElem (Finset.mem_range.mp inRange)
  rw [explained.part_eq kind found]
  exact each i _ _ found

theorem Explained.total_eq_tally (explained : Explained service body c)
    {kind : Thread × Answered sig → Bool} {counted : Nat → Bool}
    (each : ∀ i t op, c.ops[i]? = some (t, op) →
      ((c.answers i).countP fun a => kind (t, a)) = if counted i then 1 else 0) :
    c.total kind = c.tally counted := by
  rw [Config.tally_eq]
  exact explained.total_eq_sum each

theorem Explained.total_le_tally (explained : Explained service body c)
    {kind : Thread × Answered sig → Bool} {counted : Nat → Bool}
    (each : ∀ i t op, c.ops[i]? = some (t, op) →
      ((c.answers i).countP fun a => kind (t, a)) ≤ if counted i then 1 else 0) :
    c.total kind ≤ c.tally counted := by
  rw [Config.tally_eq]
  exact explained.total_le_sum each

theorem Explained.tally_le_total (explained : Explained service body c)
    {kind : Thread × Answered sig → Bool} {counted : Nat → Bool}
    (each : ∀ i t op, c.ops[i]? = some (t, op) → counted i = true →
      1 ≤ (c.answers i).countP fun a => kind (t, a)) : c.tally counted ≤ c.total kind := by
  rw [Config.tally_eq]
  apply explained.sum_le_total
  intro i t op found
  split
  · rename_i isCounted
    exact each i t op found isCounted
  · exact Nat.zero_le _

/-! ## What the operations of one thread report -/

section Thread
variable [DecidableEq Thread]

def ofThread (t : Thread) (kind : Answered sig → Bool) (entry : Thread × Answered sig) : Bool :=
  entry.1 = t ∧ kind entry.2

def Config.reports (c : Config sig Thread Shared Op Err Val) (t : Thread)
    (report : Op → Except Err Val → Bool) : Nat :=
  c.tally fun i =>
    match c.ops[i]?, c.outcome i with
    | some (t', op), some outcome => t' = t ∧ report op outcome
    | _, _ => false

variable {t : Thread} {kind : Answered sig → Bool} {report : Op → Except Err Val → Bool}

theorem countP_ofThread (answers : List (Answered sig)) (t' : Thread) :
    (answers.countP fun a => ofThread t kind (t', a)) =
      if t' = t then answers.countP kind else 0 := by
  by_cases mine : t' = t <;> simp [ofThread, mine]

theorem Explained.reports_le (explained : Explained service body c)
    (each : ∀ op answers outcome, Ends (body op) answers outcome → report op outcome = true →
      1 ≤ answers.countP kind) : c.reports t report ≤ c.total (ofThread t kind) := by
  apply explained.tally_le_total
  intro i t' op found counted
  simp only [found] at counted
  split at counted
  · rename_i outcome same ended
    cases same
    have ends := explained.ends found ended
    simp only [decide_eq_true_eq] at counted
    rw [countP_ofThread, if_pos counted.1]
    exact each op _ outcome ends counted.2
  · contradiction

theorem Explained.reports_eq (explained : Explained service body c) (idle : c.running t = none)
    (each : ∀ op answers outcome, Ends (body op) answers outcome →
      answers.countP kind = if report op outcome then 1 else 0) :
    c.total (ofThread t kind) = c.reports t report := by
  apply explained.total_eq_tally
  intro i t' op found
  rw [countP_ofThread]
  by_cases mine : t' = t
  · subst mine
    obtain ⟨outcome, ended, ends⟩ := explained.ended_of_idle idle found
    rw [if_pos rfl, each op _ outcome ends]
    simp [found, ended]
  · rw [if_neg mine]
    simp only [found]
    split
    · rename_i same _
      cases same
      simp [mine]
    · rfl

end Thread

end Sums

end Clients
