/-! # Scripts of external calls

A script is a program that returns a value, throws an error, or issues one call
to a system it does not contain and continues on the reply.  It fixes no meaning
for the calls: `eval` and `trace` answer them from a table of replies, `run`
answers them with a handler that carries the state of the called system. -/
set_option autoImplicit false

namespace CallScript

/-- The calls a program can issue, with the type of the reply to each. -/
structure Signature where
  Call : Type
  Reply : Call → Type

inductive Script (sig : Signature) (Err Val : Type) : Type
  | done (value : Val)
  | throw (error : Err)
  | ask (call : sig.Call) (next : sig.Reply call → Script sig Err Val)

namespace Script

def bind {sig : Signature} {Err Val Val' : Type} (script : Script sig Err Val)
    (rest : Val → Script sig Err Val') : Script sig Err Val' :=
  match script with
  | .done value => rest value
  | .throw error => .throw error
  | .ask call next => .ask call fun reply => (next reply).bind rest

section Replies
variable {sig : Signature} {Err Val : Type}

def eval (reply : (call : sig.Call) → sig.Reply call) : Script sig Err Val → Except Err Val
  | .done value => .ok value
  | .throw error => .error error
  | .ask call next => (next (reply call)).eval reply

def trace (reply : (call : sig.Call) → sig.Reply call) : Script sig Err Val → List sig.Call
  | .done _ => []
  | .throw _ => []
  | .ask call next => call :: (next (reply call)).trace reply

@[simp] theorem eval_done (reply : (call : sig.Call) → sig.Reply call) (value : Val) :
    (.done value : Script sig Err Val).eval reply = .ok value := rfl

@[simp] theorem eval_throw (reply : (call : sig.Call) → sig.Reply call) (error : Err) :
    (.throw error : Script sig Err Val).eval reply = .error error := rfl

@[simp] theorem eval_ask (reply : (call : sig.Call) → sig.Reply call) (call : sig.Call)
    (next : sig.Reply call → Script sig Err Val) :
    (Script.ask call next).eval reply = (next (reply call)).eval reply := rfl

@[simp] theorem trace_done (reply : (call : sig.Call) → sig.Reply call) (value : Val) :
    (.done value : Script sig Err Val).trace reply = [] := rfl

@[simp] theorem trace_throw (reply : (call : sig.Call) → sig.Reply call) (error : Err) :
    (.throw error : Script sig Err Val).trace reply = [] := rfl

@[simp] theorem trace_ask (reply : (call : sig.Call) → sig.Reply call) (call : sig.Call)
    (next : sig.Reply call → Script sig Err Val) :
    (Script.ask call next).trace reply = call :: (next (reply call)).trace reply := rfl

end Replies

section Handler
variable {sig : Signature} {Err Val State : Type}

/-- The outcome and the state left by a handler that answers each call and
updates the called system. -/
def run (handler : (call : sig.Call) → State → sig.Reply call × State) :
    Script sig Err Val → State → Except Err Val × State
  | .done value, s => (.ok value, s)
  | .throw error, s => (.error error, s)
  | .ask call next, s => (next (handler call s).1).run handler (handler call s).2

@[simp] theorem run_done (handler : (call : sig.Call) → State → sig.Reply call × State)
    (value : Val) (s : State) :
    (.done value : Script sig Err Val).run handler s = (.ok value, s) := rfl

@[simp] theorem run_throw (handler : (call : sig.Call) → State → sig.Reply call × State)
    (error : Err) (s : State) :
    (.throw error : Script sig Err Val).run handler s = (.error error, s) := rfl

@[simp] theorem run_ask (handler : (call : sig.Call) → State → sig.Reply call × State)
    (call : sig.Call) (next : sig.Reply call → Script sig Err Val) (s : State) :
    (Script.ask call next).run handler s =
      (next (handler call s).1).run handler (handler call s).2 := rfl

/-- What every call keeps, a script keeps. -/
theorem run_keeps {handler : (call : sig.Call) → State → sig.Reply call × State}
    {Inv : State → Prop} (kept : ∀ call s, Inv s → Inv (handler call s).2)
    (script : Script sig Err Val) {s : State} (inv : Inv s) : Inv (script.run handler s).2 := by
  induction script generalizing s with
  | done value => exact inv
  | throw error => exact inv
  | ask call next ih => exact ih (handler call s).1 (kept call s inv)

/-- A composition runs its first part and, if that returns, the rest in the state
it leaves. -/
theorem run_bind {Val' : Type} (handler : (call : sig.Call) → State → sig.Reply call × State)
    (rest : Val → Script sig Err Val') : ∀ (script : Script sig Err Val) (s : State),
      (script.bind rest).run handler s =
        match script.run handler s with
        | (.ok value, s') => (rest value).run handler s'
        | (.error error, s') => (.error error, s') := by
  intro script
  induction script with
  | done value => intro s; rfl
  | throw error => intro s; rfl
  | ask call next ih =>
      intro s
      rw [bind, run_ask, run_ask]
      exact ih (handler call s).1 (handler call s).2

theorem run_bind_ok {Val' : Type} {handler : (call : sig.Call) → State → sig.Reply call × State}
    {script : Script sig Err Val} {value : Val} {s s' : State}
    (returned : script.run handler s = (.ok value, s')) (rest : Val → Script sig Err Val') :
    (script.bind rest).run handler s = (rest value).run handler s' := by
  rw [run_bind, returned]

theorem run_bind_error {Val' : Type}
    {handler : (call : sig.Call) → State → sig.Reply call × State} {script : Script sig Err Val}
    {error : Err} {s s' : State} (threw : script.run handler s = (.error error, s'))
    (rest : Val → Script sig Err Val') :
    (script.bind rest).run handler s = (.error error, s') := by
  rw [run_bind, threw]

theorem run_bind_done {Val' : Type}
    {handler : (call : sig.Call) → State → sig.Reply call × State} {script : Script sig Err Val}
    {value outcome : Val'} {s : State}
    (returned : ((script.bind fun _ => .done value).run handler s).1 = .ok outcome) :
    outcome = value ∧
      ((script.bind fun _ => .done value).run handler s).2 = (script.run handler s).2 := by
  rw [run_bind] at returned ⊢
  cases ran : script.run handler s with
  | mk result last =>
      rw [ran] at returned
      cases result with
      | ok middle => exact ⟨(Except.ok.inj returned).symm, rfl⟩
      | error error => cases returned

end Handler

end Script

/-! ## Programs over one of two systems -/

/-- The calls of either system. -/
def Signature.sum (left right : Signature) : Signature where
  Call := left.Call ⊕ right.Call
  Reply
    | .inl call => left.Reply call
    | .inr call => right.Reply call

namespace Script

section Sum
variable {left right : Signature} {Err Err' Val Val' : Type}

/-- A program of the left system, with its errors and values renamed. -/
def inl (error : Err → Err') (value : Val → Val') :
    Script left Err Val → Script (left.sum right) Err' Val'
  | .done v => .done (value v)
  | .throw e => .throw (error e)
  | .ask call next =>
      @Script.ask (left.sum right) Err' Val' (.inl call) fun reply => (next reply).inl error value

def inr (error : Err → Err') (value : Val → Val') :
    Script right Err Val → Script (left.sum right) Err' Val'
  | .done v => .done (value v)
  | .throw e => .throw (error e)
  | .ask call next =>
      @Script.ask (left.sum right) Err' Val' (.inr call) fun reply => (next reply).inr error value

def renamed (error : Err → Err') (value : Val → Val') : Except Err Val → Except Err' Val'
  | .ok v => .ok (value v)
  | .error e => .error (error e)

variable {State : Type} {error : Err → Err'} {value : Val → Val'}

/-- A program of the left system runs in the sum as it does alone. -/
theorem run_inl
    {handler : (call : (left.sum right).Call) → State → (left.sum right).Reply call × State}
    (script : Script left Err Val) (s : State) :
    (script.inl error value : Script (left.sum right) Err' Val').run handler s =
      (renamed error value (script.run (fun call => handler (.inl call)) s).1,
        (script.run (fun call => handler (.inl call)) s).2) := by
  induction script generalizing s with
  | done v => rfl
  | throw e => rfl
  | ask call next ih => exact ih (handler (.inl call) s).1 (handler (.inl call) s).2

theorem run_inr
    {handler : (call : (left.sum right).Call) → State → (left.sum right).Reply call × State}
    (script : Script right Err Val) (s : State) :
    (script.inr error value : Script (left.sum right) Err' Val').run handler s =
      (renamed error value (script.run (fun call => handler (.inr call)) s).1,
        (script.run (fun call => handler (.inr call)) s).2) := by
  induction script generalizing s with
  | done v => rfl
  | throw e => rfl
  | ask call next ih => exact ih (handler (.inr call) s).1 (handler (.inr call) s).2

end Sum

end Script

end CallScript
