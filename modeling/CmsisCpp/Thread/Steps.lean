import CmsisCpp.Library.Ownership
import CmsisCpp.Thread.Model

/-! # What a step of the threads can do

`Taken s a claims s'` lists, one constructor each, the outcomes of a step with the
guard under which it happens and the OS threads that it claims by a join or a
detach; `step_taken` is the inversion of the executable step function. -/
set_option autoImplicit false

namespace CmsisCpp.Thread

open ActionSystem CallScript Ownership

/-! ## Ownership of the `thread_impl` -/

def Event.creates : Event → Option ImplId
  | .created _ i => some i
  | _ => none

def Event.destroys : Event → Option ImplId
  | .destroyed i => some i
  | _ => none

namespace State

def estate (s : State) : Estate ObjId ImplId where
  holds o := (s.objs o).join
  live i := (s.impls i).isSome = true
  created := s.log.filterMap Event.creates
  deleted := s.log.filterMap Event.destroys

def claimedBy (s : State) (env : Environment) (obj : Option ImplId)
    (script : Option ThreadImpl → Script threadSig SystemError ThreadImpl) : List Nat :=
  match (s.call env (script (s.pThread obj))).1 with
  | .ok impl => s.serials impl.id
  | .error _ => []

/-- The OS threads on which `osThreadJoin` or `osThreadDetach` succeeds in a step. -/
def claims (s : State) : Action → List Nat
  | .user (.join o) env => ((s.objs o).map fun obj => s.claimedBy env obj join).getD []
  | .user (.detach o) env => ((s.objs o).map fun obj => s.claimedBy env obj detach).getD []
  | _ => []

/-- A new `thread_impl` in the object `o`, with its OS thread under `id`. -/
def addThread (s : State) (o : ObjId) (id : Handle) : State :=
  ({ s with
    os := { s.os.set id (some ⟨s.os.created, s.allocated, true, false⟩) with
      created := s.os.created + 1 }
    allocated := s.allocated + 1 }.setImpl s.allocated (some ⟨id, false⟩)).setObj
      o (some (some s.allocated)) |>.record [.created s.os.created s.allocated]

/-- A claim of the thread of `i`: what becomes of the OS thread, and the object. -/
def claim (s : State) (i : ImplId) (impl : ThreadImpl) (after : Option OsThread) : State :=
  { s with os := s.os.set impl.id after }.setImpl i (some { impl with detached := true })

section Fields
variable (s : State) (o : ObjId) (id : Handle) (i : ImplId) (impl : ThreadImpl)

@[simp] theorem addThread_objs :
    (s.addThread o id).objs = Function.update s.objs o (some (some s.allocated)) := rfl

@[simp] theorem addThread_impls :
    (s.addThread o id).impls = Function.update s.impls s.allocated (some ⟨id, false⟩) := rfl

@[simp] theorem addThread_threads : (s.addThread o id).os.threads =
    Function.update s.os.threads id (some ⟨s.os.created, s.allocated, true, false⟩) := rfl

@[simp] theorem addThread_created : (s.addThread o id).os.created = s.os.created + 1 := rfl

@[simp] theorem addThread_log :
    (s.addThread o id).log = s.log ++ [.created s.os.created s.allocated] := rfl

@[simp] theorem claim_impls (after : Option OsThread) : (s.claim i impl after).impls =
    Function.update s.impls i (some { impl with detached := true }) := rfl

@[simp] theorem claim_threads (after : Option OsThread) :
    (s.claim i impl after).os.threads = Function.update s.os.threads impl.id after := rfl

@[simp] theorem record_impls (events : List Event) : (s.record events).impls = s.impls := rfl

@[simp] theorem record_os (events : List Event) : (s.record events).os = s.os := rfl

end Fields

end State

inductive Taken (s : State) (a : Action) : List Nat → State → Prop
  | moved {objs : ObjId → Option (Option ImplId)}
      (transfers : Transfers s.estate { s with objs := objs }.estate) :
      Taken s a [] { s with objs := objs }
  | terminated : Taken s a [] { s with status := .terminated }
  | constructed {o : ObjId} {id : Handle} (absent : s.objs o = none) (valid : id ≠ 0)
      (free : s.os.threads id = none) :
      Taken s a [] (s.addThread o id)
  | joined {o : ObjId} {env : Environment} {i : ImplId} {impl : ThreadImpl} {thread : OsThread}
      (act : a = .user (.join o) env) (owned : s.objs o = some (some i))
      (found : s.impls i = some impl) (joinable : impl.detached = false)
      (present : s.os.threads impl.id = some thread) (hasEnded : thread.running = false) :
      Taken s a [thread.serial] ((s.claim i impl none).record [.joined i])
  | detached {o : ObjId} {env : Environment} {i : ImplId} {impl : ThreadImpl} {thread : OsThread}
      (act : a = .user (.detach o) env) (owned : s.objs o = some (some i))
      (found : s.impls i = some impl) (joinable : impl.detached = false)
      (present : s.os.threads impl.id = some thread) :
      Taken s a [thread.serial] ((s.claim i impl
        (if thread.running = true then some { thread with detached := true } else none)).record
          [.detached thread.serial])
  | finished {id : Handle} {thread : OsThread} (present : s.os.threads id = some thread) :
      Taken s a []
        ({ s with os := s.os.set id thread.ended }.record [.finished thread.serial])
  | destroyed {o : ObjId} {i : ImplId} {impl : ThreadImpl} {env : Environment}
      (act : a = .user (.destroy o) env) (owned : s.objs o = some (some i))
      (found : s.impls i = some impl) (claimed : impl.detached = true) :
      Taken s a [] ((s.setObj o none).deleteImpl env i impl)

section Scripts
variable (env : Environment) (os : OsState)

theorem threadImpl_run (argument : ImplId) (attr : Attributes) :
    (threadImpl argument attr).run (kernel env) os =
      if env.newId = 0 ∨ os.threads env.newId ≠ none then
        (.error (osFailure .osError "osThreadNew"), os)
      else
        (.ok ⟨env.newId, false⟩, { os.set env.newId (some ⟨os.created, argument, true, false⟩) with
          created := os.created + 1 }) := by
  simp only [threadImpl, Script.run_ask, kernel]
  split
  · simp
  · rename_i fresh
    have notNull : env.newId ≠ 0 := fun null => fresh (.inl null)
    simp [notNull]

theorem destroy_run (impl : ThreadImpl) :
    ((impl.destroy).run (kernel env) os).2 =
      match os.threads impl.id with
      | none => os
      | some thread => if thread.running = true then os.set impl.id thread.ended else os := by
  simp only [ThreadImpl.destroy, Script.run_ask, Script.run_done, kernel]
  cases os.threads impl.id with
  | none => rfl
  | some thread => cases running : thread.running <;> simp [running]

/-- A join changes the OS exactly when it succeeds: the thread has ended. -/
theorem ThreadImpl.join_run (impl : ThreadImpl) :
    (∃ thread, os.threads impl.id = some thread ∧ thread.running = false ∧
        (impl.join).run (kernel env) os =
          (.ok { impl with detached := true }, os.set impl.id none)) ∨
      ∃ error, (impl.join).run (kernel env) os = (.error error, os) := by
  simp only [ThreadImpl.join, Script.run_ask, kernel]
  cases present : os.threads impl.id with
  | none => exact .inr (by simp)
  | some thread =>
      by_cases ok : env.status = .osOK
      · by_cases ready : thread.detached = true ∨ thread.running = true
        · exact .inr (by simp [ok, ready])
        · exact .inl ⟨thread, rfl, by simp_all, by simp [ok, ready]⟩
      · exact .inr (by simp [ok])

theorem ThreadImpl.detach_run (impl : ThreadImpl) :
    (∃ thread, os.threads impl.id = some thread ∧
        (impl.detach).run (kernel env) os = (.ok { impl with detached := true }, os.set impl.id
          (if thread.running = true then some { thread with detached := true } else none))) ∨
      ∃ error, (impl.detach).run (kernel env) os = (.error error, os) := by
  simp only [ThreadImpl.detach, Script.run_ask, kernel]
  cases present : os.threads impl.id with
  | none => exact .inr (by simp)
  | some thread =>
      by_cases ok : env.status = .osOK
      · by_cases detached : thread.detached = true
        · exact .inr (by simp [ok, detached])
        · refine .inl ⟨thread, rfl, ?_⟩
          cases running : thread.running <;> simp [ok, detached, running]
      · exact .inr (by simp [ok])

/-- A join by another thread of a joinable object reaches the `thread_impl`. -/
theorem join_called {impl : ThreadImpl} (joinable : impl.joinable = true)
    (caller : env.caller ≠ 0) (other : impl.id ≠ env.caller) :
    (join (some impl)).run (kernel env) os = (impl.join).run (kernel env) os := by
  simp [join, joinable, Script.run_bind, thisThreadGetId, kernel, caller, other]

/-- `thread::join` and `thread::detach` throw, which changes nothing, or do to a
joinable object what `thread_impl` does. -/
theorem join_run (pThread : Option ThreadImpl) :
    (∃ impl thread, pThread = some impl ∧ impl.detached = false ∧
        os.threads impl.id = some thread ∧ thread.running = false ∧
        (join pThread).run (kernel env) os =
          (.ok { impl with detached := true }, os.set impl.id none)) ∨
      ∃ error, (join pThread).run (kernel env) os = (.error error, os) := by
  cases pThread with
  | none => exact .inr ⟨_, rfl⟩
  | some impl =>
      cases detached : impl.detached with
      | true => exact .inr (by simp [join, ThreadImpl.joinable, detached])
      | false =>
          have joinable : impl.joinable = true := by simp [ThreadImpl.joinable, detached]
          by_cases null : env.caller = 0
          · exact .inr (by simp [join, joinable, Script.run_bind, thisThreadGetId, kernel, null])
          · by_cases own : impl.id = env.caller
            · right
              simp [join, joinable, Script.run_bind, thisThreadGetId, kernel, null, own]
            · rw [join_called env os joinable null own]
              rcases impl.join_run env os with ⟨thread, present, hasEnded, joined⟩ | refused
              · exact .inl ⟨impl, thread, rfl, detached, present, hasEnded, joined⟩
              · exact .inr refused

theorem detach_run (pThread : Option ThreadImpl) :
    (∃ impl thread, pThread = some impl ∧ impl.detached = false ∧
        os.threads impl.id = some thread ∧
        (detach pThread).run (kernel env) os = (.ok { impl with detached := true }, os.set impl.id
          (if thread.running = true then some { thread with detached := true } else none))) ∨
      ∃ error, (detach pThread).run (kernel env) os = (.error error, os) := by
  cases pThread with
  | none => exact .inr ⟨_, rfl⟩
  | some impl =>
      simp only [detach]
      cases detached : impl.detached with
      | true => exact .inr (by simp [ThreadImpl.joinable, detached])
      | false =>
          have joinable : impl.joinable = true := by simp [ThreadImpl.joinable, detached]
          rw [joinable, if_neg Bool.noConfusion]
          rcases impl.detach_run env os with ⟨thread, present, detachedOs⟩ | refused
          · exact .inl ⟨impl, thread, rfl, detached, present, detachedOs⟩
          · exact .inr refused

end Scripts

section Inversion
variable {s s' : State} {a : Action} {env : Environment} {o source : ObjId}

theorem setObj_exchange {x y : Option (Option ImplId)} (first : x.join = (s.objs source).join)
    (second : y.join = (s.objs o).join) :
    Transfers s.estate ((s.setObj o x).setObj source y).estate :=
  .single (.exchange o source (read_update_swap Option.join first second)
    (fun _ => Iff.rfl) rfl rfl)

theorem setObj_empty {x : Option (Option ImplId)} (before : (s.objs o).join = none)
    (after : x.join = none) : Transfers s.estate (s.setObj o x).estate := by
  have twice : (s.setObj o x).setObj o x = s.setObj o x := by
    simp [State.setObj]
  rw [← twice]
  exact setObj_exchange (after.trans before.symm) (after.trans before.symm)

theorem construct_taken {attr : Attributes} (taken : s.construct env o attr = some s') :
    Taken s a [] s' := by
  simp only [State.construct, State.call, threadImpl_run, Option.ite_none_right_eq_some] at taken
  obtain ⟨absent, taken⟩ := taken
  by_cases refused : env.newId = 0 ∨ s.os.threads env.newId ≠ none
  · simp only [if_pos refused, Option.some.injEq] at taken
    subst taken
    exact .moved .refl
  · simp only [if_neg refused, Option.some.injEq] at taken
    rw [not_or, not_not] at refused
    subst taken
    exact .constructed absent refused.1 refused.2

/-- A join succeeds, on a joinable object whose thread has ended, or changes nothing. -/
theorem joinObj_taken {obj : Option ImplId} (owned : s.objs o = some obj) :
    Taken s (.user (.join o) env) (s.claimedBy env obj join) (s.joinObj env obj) := by
  simp only [State.claimedBy, State.joinObj, State.call]
  rcases join_run env s.os (s.pThread obj) with
    ⟨impl, thread, found, joinable, present, hasEnded, run⟩ | ⟨error, run⟩
  · cases obj with
    | none => contradiction
    | some i =>
        have serials : s.serials impl.id = [thread.serial] := by
          rw [State.serials, present]
        rw [run]
        simp only [serials]
        exact .joined rfl owned found joinable present hasEnded
  · rw [run]
    exact .moved .refl

theorem detachObj_taken {obj : Option ImplId} (owned : s.objs o = some obj) :
    Taken s (.user (.detach o) env) (s.claimedBy env obj detach) (s.detachObj env obj) := by
  simp only [State.claimedBy, State.detachObj, State.call]
  rcases detach_run env s.os (s.pThread obj) with
    ⟨impl, thread, found, joinable, present, run⟩ | ⟨error, run⟩
  · cases obj with
    | none => contradiction
    | some i =>
        have serials : s.serials impl.id = [thread.serial] := by
          rw [State.serials, present]
        rw [run]
        simp only [serials]
        exact .detached rfl owned found joinable present
  · rw [run]
    exact .moved .refl

theorem userStep_taken {op : Operation} (taken : s.userStep env op = some s') :
    Taken s (.user op env) (s.claims (.user op env)) s' := by
  cases op with
  | default o =>
      simp only [State.userStep, Option.ite_none_right_eq_some, Option.some.injEq] at taken
      obtain ⟨absent, rfl⟩ := taken
      exact .moved (setObj_empty (by rw [absent]; rfl) rfl)
  | construct o attr => exact construct_taken taken
  | moveConstruct o source =>
      simp only [State.userStep] at taken
      split at taken
      · rename_i obj absent found
        cases taken
        exact .moved (setObj_exchange (by rw [absent]; rfl) (by rw [found]))
      · contradiction
  | moveAssign o source =>
      simp only [State.userStep] at taken
      split at taken
      · rename_i obj obj' found found'
        split at taken
        · cases taken
          exact .terminated
        · cases taken
          exact .moved (setObj_exchange (by rw [found']) (by rw [found]))
      · contradiction
  | swap o other =>
      simp only [State.userStep] at taken
      split at taken
      · rename_i obj obj' found found'
        cases taken
        exact .moved (setObj_exchange (by rw [found']) (by rw [found]))
      · contradiction
  | join o =>
      obtain ⟨obj, owned, rfl⟩ := Option.map_eq_some_iff.mp taken
      simp only [State.claims, owned, Option.map_some, Option.getD_some]
      exact joinObj_taken owned
  | detach o =>
      obtain ⟨obj, owned, rfl⟩ := Option.map_eq_some_iff.mp taken
      simp only [State.claims, owned, Option.map_some, Option.getD_some]
      exact detachObj_taken owned
  | destroy o =>
      simp only [State.userStep] at taken
      split at taken
      · contradiction
      · rename_i owned
        cases taken
        exact .moved (setObj_empty (by rw [owned]; rfl) rfl)
      · rename_i i owned
        split at taken
        · contradiction
        · rename_i impl found
          split at taken
          · cases taken
            exact .terminated
          · rename_i notJoinable
            cases taken
            exact .destroyed rfl owned found (by simpa [ThreadImpl.joinable] using notJoinable)

theorem step_taken (taken : s.step a = some s') : Taken s a (s.claims a) s' := by
  simp only [State.step, Option.ite_none_right_eq_some] at taken
  obtain ⟨_, taken⟩ := taken
  cases a with
  | user op env => exact userStep_taken taken
  | finish id =>
      simp only [State.finish] at taken
      split at taken
      · contradiction
      · rename_i thread present
        simp only [Option.ite_none_right_eq_some, Option.some.injEq] at taken
        obtain ⟨_, rfl⟩ := taken
        exact .finished present

end Inversion

end CmsisCpp.Thread
