import CmsisCpp.Thread.Steps

/-! # Who owns an OS thread

A `thread` owns the OS thread that its `thread_impl` has created until a join or a
detach succeeds on it.  The guards that terminate the program keep every thread
that is not claimed yet with one object. -/
set_option autoImplicit false

namespace CmsisCpp.Thread

open ActionSystem CallScript Ownership

namespace State

def References (s : State) (o : ObjId) (n : Nat) : Prop :=
  ∃ i, s.objs o = some (some i) ∧ .created n i ∈ s.log

/-- The object is joinable and its `get_id` identifies the OS thread `n`. -/
def Joins (s : State) (o : ObjId) (n : Nat) : Prop :=
  ∃ obj thread, s.objs o = some obj ∧ joinable (s.pThread obj) = true ∧
    s.os.threads (getId (s.pThread obj)) = some thread ∧ thread.serial = n

def observers (s : State) (o : ObjId) : Option (Bool × Handle) :=
  (s.objs o).map fun obj => (joinable (s.pThread obj), getId (s.pThread obj))

end State

/-- No two objects own one OS thread; one that was neither joined nor detached has
its object, which is joinable; no OS thread is claimed twice. -/
structure OwnsThreads (s : State) (claims : List Nat) : Prop where
  oneObject : ∀ n o o', s.References o n → s.References o' n → o = o'
  neverLost : ∀ n < s.os.created, n ∉ claims → ∃ o, s.References o n ∧ s.Joins o n ∧
    ∀ o', s.References o' n ∨ s.Joins o' n → o' = o
  claimedOnce : claims.Nodup

def FailedCallKeeps (s : State) : Prop :=
  ∀ o obj env error, s.objs o = some obj →
    ((s.call env (join (s.pThread obj))).1 = .error error →
      ∀ x, (s.joinObj env obj).observers x = s.observers x) ∧
    ((s.call env (detach (s.pThread obj))).1 = .error error →
      ∀ x, (s.detachObj env obj).observers x = s.observers x)

/-! ## Invariants -/

structure ImplInv (s : State) : Prop where
  owned : Owned s.estate
  fresh : ∀ i, (s.impls i).isSome = true → i < s.allocated
  sync : s.allocated = s.os.created
  logged : ∀ n i, .created n i ∈ s.log ↔ i = n ∧ n < s.os.created
  valid : ∀ i impl, s.impls i = some impl → impl.id ≠ 0

/-- The OS thread of a joinable object is there, and the claimed ones are no
object's any more. -/
structure ClaimInv (s : State) (claims : List Nat) : Prop where
  attached : ∀ i impl, s.impls i = some impl → impl.detached = false →
    ∃ thread, s.os.threads impl.id = some thread ∧ thread.serial = i ∧
      thread.detached = false ∧ i ∉ claims
  unclaimed : ∀ n < s.os.created, n ∉ claims →
    ∃ impl, s.impls n = some impl ∧ impl.detached = false
  once : claims.Nodup
  known : ∀ n ∈ claims, n < s.os.created

section Estate
variable {s : State} {o : ObjId} {i : ImplId} {impl : ThreadImpl} {env : Environment}

theorem estate_holds : s.estate.holds o = some i ↔ s.objs o = some (some i) :=
  Option.join_eq_some_iff

theorem record_estate {event : Event} (creates : event.creates = none)
    (destroys : event.destroys = none) : (s.record [event]).estate = s.estate := by
  simp [State.estate, State.record, creates, destroys]

theorem claim_estate {after : Option OsThread} (found : s.impls i = some impl) :
    (s.claim i impl after).estate = s.estate := by
  have live : ∀ j, (Function.update s.impls i (some { impl with detached := true }) j).isSome =
      (s.impls j).isSome := by
    intro j
    by_cases same : j = i
    · rw [same, Function.update_self, found]
      rfl
    · rw [Function.update_of_ne same]
  simp only [State.estate, State.claim, State.setImpl, live]

theorem deleteImpl_log (s : State) (env : Environment) (i : ImplId) (impl : ThreadImpl) :
    ∃ events, (s.deleteImpl env i impl).log = s.log ++ events ∧
      events.filterMap Event.creates = [] ∧ events.filterMap Event.destroys = [i] := by
  refine ⟨s.terminations impl.id i ++ [.destroyed i], rfl, ?_⟩
  unfold State.terminations
  split
  · exact ⟨rfl, rfl⟩
  · split <;> exact ⟨rfl, rfl⟩

theorem deleteImpl_transfers (owned : s.objs o = some (some i)) :
    Transfers s.estate ((s.setObj o none).deleteImpl env i impl).estate := by
  obtain ⟨events, log, creates, destroys⟩ := deleteImpl_log (s.setObj o none) env i impl
  refine .single (.release o i (estate_holds.mpr owned) ?_ ?_ ?_ ?_)
  · intro x
    change (Function.update s.objs o none x).join = if x = o then none else (s.objs x).join
    by_cases same : x = o <;> simp [same]
  · intro j
    change (Function.update s.impls i none j).isSome = true ↔ j ≠ i ∧ (s.impls j).isSome = true
    by_cases same : j = i <;> simp [same]
  · change List.filterMap _ ((s.setObj o none).deleteImpl env i impl).log = _
    rw [log, List.filterMap_append, creates, List.append_nil]
    rfl
  · change List.filterMap _ ((s.setObj o none).deleteImpl env i impl).log = _
    rw [log, List.filterMap_append, destroys]
    rfl

end Estate

section Step
variable {s s' : State} {a : Action} {claims new : List Nat} {i : ImplId} {impl : ThreadImpl}

theorem deleteImpl_created (s : State) (env : Environment) (i : ImplId) (impl : ThreadImpl) :
    (s.deleteImpl env i impl).os.created = s.os.created := by
  change ((impl.destroy).run (kernel env) s.os).2.created = s.os.created
  rw [destroy_run]
  split
  · rfl
  · split <;> rfl

theorem ImplInv.constructed (inv : ImplInv s) {o : ObjId} {id : Handle}
    (absent : s.objs o = none) (valid : id ≠ 0) :
    ImplInv (s.addThread o id) where
  owned := by
    refine Owned.acquire inv.owned o s.allocated ?_ ?_ ?_ ?_ ?_ ?_
    · change (s.objs o).join = none
      rw [absent]
      rfl
    · intro isLive
      exact absurd (inv.fresh _ isLive) (Nat.lt_irrefl _)
    · intro x
      by_cases same : x = o <;> simp [State.estate, same]
    · intro j
      by_cases same : j = s.allocated <;> simp [State.estate, same]
    · simp [State.estate, Event.creates]
    · simp [State.estate, Event.destroys]
  fresh := by
    intro j isLive
    by_cases new : j = s.allocated
    · exact new ▸ Nat.lt_succ_self _
    · apply Nat.lt_succ_of_lt
      exact inv.fresh j (by simpa [new] using isLive)
  sync := congrArg Nat.succ inv.sync
  logged := by
    intro n j
    have extended : ∀ n j : Nat, (j = n ∧ n < s.os.created) ∨ (n = s.os.created ∧ j = s.allocated) ↔
        j = n ∧ n < s.os.created + 1 := by
      have sync := inv.sync
      intro n j
      omega
    rw [State.addThread_log, List.mem_append, inv.logged, List.mem_singleton,
      Event.created.injEq]
    exact extended n j
  valid := by
    intro j impl found
    by_cases new : j = s.allocated
    · have made : (⟨id, false⟩ : ThreadImpl) = impl := by
        simpa [new] using found
      exact made ▸ valid
    · exact inv.valid j impl (by simpa [new] using found)

theorem ImplInv.claim (inv : ImplInv s) (found : s.impls i = some impl)
    {after : Option OsThread} {event : Event} (creates : event.creates = none)
    (destroys : event.destroys = none) :
    ImplInv ((s.claim i impl after).record [event]) where
  owned := by
    rw [record_estate creates destroys, claim_estate found]
    exact inv.owned
  fresh := by
    intro j isLive
    by_cases same : j = i
    · exact inv.fresh j (by rw [same, found]; rfl)
    · exact inv.fresh j (by simpa [same] using isLive)
  sync := inv.sync
  logged := by
    intro n j
    have other : .created n j ≠ event := by
      rintro rfl
      contradiction
    change _ ∈ s.log ++ [event] ↔ _
    rw [List.mem_append, List.mem_singleton, or_iff_left other]
    exact inv.logged n j
  valid := by
    intro j impl' found'
    by_cases same : j = i
    · have claimed : { impl with detached := true } = impl' := by
        simpa [same] using found'
      exact claimed ▸ inv.valid i impl found
    · exact inv.valid j impl' (by simpa [same] using found')

theorem ImplInv.deleted (inv : ImplInv s) {o : ObjId} {env : Environment}
    (owned : s.objs o = some (some i)) :
    ImplInv ((s.setObj o none).deleteImpl env i impl) where
  owned := (deleteImpl_transfers owned).owned inv.owned
  fresh := by
    intro j isLive
    change (Function.update s.impls i none j).isSome = true at isLive
    by_cases same : j = i
    · simp [same] at isLive
    · exact inv.fresh j (by simpa [same] using isLive)
  sync := inv.sync.trans (deleteImpl_created _ env i impl).symm
  logged := by
    intro n j
    obtain ⟨events, log, creates, _⟩ := deleteImpl_log (s.setObj o none) env i impl
    have other : .created n j ∉ events := by
      intro member
      exact absurd (List.filterMap_eq_nil_iff.mp creates _ member) (Option.some_ne_none j)
    rw [log, List.mem_append, or_iff_left other, deleteImpl_created]
    exact inv.logged n j
  valid := by
    intro j impl' found
    change Function.update s.impls i none j = some impl' at found
    by_cases same : j = i
    · simp [same] at found
    · exact inv.valid j impl' (by simpa [same] using found)

theorem Taken.implInv (taken : Taken s a new s') (inv : ImplInv s) : ImplInv s' := by
  cases taken with
  | moved transfers =>
      exact ⟨transfers.owned inv.owned, inv.fresh, inv.sync, inv.logged, inv.valid⟩
  | terminated => exact ⟨inv.owned, inv.fresh, inv.sync, inv.logged, inv.valid⟩
  | constructed absent valid free => exact inv.constructed absent valid
  | joined act owned found joinable present hasEnded => exact inv.claim found rfl rfl
  | detached act owned found joinable present => exact inv.claim found rfl rfl
  | finished present =>
      refine ⟨?_, inv.fresh, inv.sync, ?_, inv.valid⟩
      · rw [record_estate rfl rfl]
        exact inv.owned
      · intro n i
        rw [State.record, List.mem_append, List.mem_singleton, or_iff_left nofun]
        exact inv.logged n i
  | destroyed act owned found claimed => exact inv.deleted owned

/-! ## Claims -/

/-- A step that claims nothing keeps the joinable objects and their OS threads. -/
theorem ClaimInv.keep (inv : ClaimInv s claims) (created : s'.os.created = s.os.created)
    (impls : ∀ i impl, impl.detached = false → (s'.impls i = some impl ↔ s.impls i = some impl))
    (threads : ∀ id thread, s.os.threads id = some thread → thread.detached = false →
      ∃ thread', s'.os.threads id = some thread' ∧ thread'.serial = thread.serial ∧
        thread'.detached = false) : ClaimInv s' claims where
  attached := by
    intro i impl found joinable
    obtain ⟨thread, present, serial, undetached, free⟩ :=
      inv.attached i impl ((impls i impl joinable).mp found) joinable
    obtain ⟨thread', present', same, undetached'⟩ := threads impl.id thread present undetached
    exact ⟨thread', present', same.trans serial, undetached', free⟩
  unclaimed := by
    intro n known free
    obtain ⟨impl, found, joinable⟩ := inv.unclaimed n (created ▸ known) free
    exact ⟨impl, (impls n impl joinable).mpr found, joinable⟩
  once := inv.once
  known := created ▸ inv.known

theorem ended_kept {threads : Handle → Option OsThread} {id : Handle} {thread : OsThread}
    (present : threads id = some thread) (x : Handle) (kept : OsThread)
    (before : threads x = some kept) (undetached : kept.detached = false) :
    ∃ thread', Function.update threads id thread.ended x = some thread' ∧
      thread'.serial = kept.serial ∧ thread'.detached = false := by
  by_cases same : x = id
  · subst same
    obtain rfl : kept = thread := Option.some.inj (before.symm.trans present)
    refine ⟨{ kept with running := false }, ?_, rfl, undetached⟩
    simp [OsThread.ended, undetached]
  · exact ⟨kept, by rw [Function.update_of_ne same, before], rfl, undetached⟩

theorem ClaimInv.constructed (inv : ClaimInv s claims) (implInv : ImplInv s) {o : ObjId}
    {id : Handle} (free : s.os.threads id = none) :
    ClaimInv (s.addThread o id) claims where
  attached := by
    intro i impl found joinable
    rw [State.addThread_impls] at found
    rw [State.addThread_threads]
    by_cases new : i = s.allocated
    · obtain rfl : (⟨id, false⟩ : ThreadImpl) = impl := by simpa [new] using found
      refine ⟨_, Function.update_self .., ?_, rfl, ?_⟩
      · rw [new, implInv.sync]
      · intro claimed
        have known := inv.known i claimed
        rw [new, implInv.sync] at known
        exact absurd known (Nat.lt_irrefl _)
    · obtain ⟨thread, present, rest⟩ :=
        inv.attached i impl (by simpa [new] using found) joinable
      have other : impl.id ≠ id := by
        intro same
        rw [same, free] at present
        contradiction
      exact ⟨thread, by rw [Function.update_of_ne other, present], rest⟩
  unclaimed := by
    intro n known unclaimed
    rw [State.addThread_created] at known
    rw [State.addThread_impls]
    by_cases new : n = s.allocated
    · exact ⟨_, by rw [new, Function.update_self], rfl⟩
    · have sync := implInv.sync
      obtain ⟨impl, found, joinable⟩ := inv.unclaimed n (by omega) unclaimed
      exact ⟨impl, by rw [Function.update_of_ne new, found], joinable⟩
  once := inv.once
  known := by
    intro n claimed
    exact Nat.lt_succ_of_lt (inv.known n claimed)

/-- A join or detach of a joinable object claims its OS thread, which nobody has
claimed before. -/
theorem ClaimInv.claim (inv : ClaimInv s claims) (implInv : ImplInv s)
    {thread : OsThread} (found : s.impls i = some impl) (joinable : impl.detached = false)
    (present : s.os.threads impl.id = some thread) (after : Option OsThread) (event : Event) :
    ClaimInv ((s.claim i impl after).record [event]) (claims ++ [thread.serial]) := by
  obtain ⟨thread', present', serial, _, free⟩ := inv.attached i impl found joinable
  obtain rfl : thread' = thread := Option.some.inj (present'.symm.trans present)
  rw [serial]
  constructor
  · intro j impl' found' joinable'
    rw [State.record_impls, State.claim_impls] at found'
    rw [State.record_os, State.claim_threads]
    have differs : j ≠ i := by
      rintro rfl
      rw [Function.update_self, Option.some.injEq] at found'
      rw [← found'] at joinable'
      contradiction
    rw [Function.update_of_ne differs] at found'
    obtain ⟨other, presentOther, serialOther, undetached, freeOther⟩ :=
      inv.attached j impl' found' joinable'
    -- two joinable objects with one identifier would have one OS thread
    have otherId : impl'.id ≠ impl.id := by
      intro same
      rw [same, present, Option.some.injEq] at presentOther
      rw [← presentOther, serial] at serialOther
      exact differs serialOther.symm
    refine ⟨other, by rw [Function.update_of_ne otherId, presentOther], serialOther,
      undetached, ?_⟩
    simp [freeOther, differs]
  · intro n known unclaimed
    rw [List.mem_append, List.mem_singleton, not_or] at unclaimed
    obtain ⟨impl', found', joinable'⟩ := inv.unclaimed n known unclaimed.1
    refine ⟨impl', ?_, joinable'⟩
    rw [State.record_impls, State.claim_impls, Function.update_of_ne unclaimed.2, found']
  · rw [List.nodup_append]
    refine ⟨inv.once, by simp, ?_⟩
    intro n claimed n' isNew same
    rw [List.mem_singleton.mp isNew] at same
    exact free (same ▸ claimed)
  · intro n claimed
    rcases List.mem_append.mp claimed with old | isNew
    · exact inv.known n old
    · rw [List.mem_singleton.mp isNew]
      have isLive := implInv.fresh i (by rw [found]; rfl)
      rwa [implInv.sync] at isLive

theorem ClaimInv.deleted (inv : ClaimInv s claims) {o : ObjId} {env : Environment}
    (found : s.impls i = some impl) (claimed : impl.detached = true) :
    ClaimInv ((s.setObj o none).deleteImpl env i impl) claims := by
  refine inv.keep (deleteImpl_created ..) ?_ ?_
  · intro j impl' joinable
    change Function.update s.impls i none j = some impl' ↔ _
    by_cases same : j = i
    · subst same
      rw [Function.update_self, found, Option.some.injEq]
      constructor
      · nofun
      · rintro rfl
        rw [claimed] at joinable
        contradiction
    · rw [Function.update_of_ne same]
  · intro id thread present undetached
    change ∃ thread', ((impl.destroy).run (kernel env) s.os).2.threads id = some thread' ∧ _
    rw [destroy_run]
    split
    · exact ⟨thread, present, rfl, undetached⟩
    · rename_i victim named
      split
      · exact ended_kept named id thread present undetached
      · exact ⟨thread, present, rfl, undetached⟩

theorem Taken.claimInv (taken : Taken s a new s') (implInv : ImplInv s)
    (inv : ClaimInv s claims) : ClaimInv s' (claims ++ new) := by
  cases taken with
  | joined act owned found joinable present hasEnded =>
      exact inv.claim implInv found joinable present _ _
  | detached act owned found joinable present =>
      exact inv.claim implInv found joinable present _ _
  | constructed absent valid free =>
      rw [List.append_nil]
      exact inv.constructed implInv free
  | destroyed act owned found claimed =>
      rw [List.append_nil]
      exact inv.deleted found claimed
  | finished present =>
      rw [List.append_nil]
      exact inv.keep rfl (fun _ _ _ => Iff.rfl) (ended_kept present)
  | moved transfers =>
      rw [List.append_nil]
      exact ⟨inv.attached, inv.unclaimed, inv.once, inv.known⟩
  | terminated =>
      rw [List.append_nil]
      exact ⟨inv.attached, inv.unclaimed, inv.once, inv.known⟩

end Step

theorem implInv_initial : ImplInv State.initial where
  owned := by constructor <;> simp [State.initial, State.estate]
  fresh := by simp [State.initial]
  sync := rfl
  logged := by simp [State.initial]
  valid := by simp [State.initial]

theorem run_implInv {allowed : State → Action → Prop} {acts : List Action} {s : State}
    (run : Run system allowed acts s) : ImplInv s := by
  refine run.invariant ImplInv implInv_initial ?_
  intro s a s' inv _ stepped
  exact (step_taken stepped).implInv inv

/-! ## Objects and OS threads -/

section Objects
variable {s : State} {claims : List Nat}

theorem OwnsThreads.of_inv (implInv : ImplInv s) (inv : ClaimInv s claims) :
    OwnsThreads s claims where
  oneObject := by
    rintro n o o' ⟨i, owned, created⟩ ⟨i', owned', created'⟩
    obtain ⟨rfl, _⟩ := (implInv.logged n i).mp created
    obtain ⟨rfl, _⟩ := (implInv.logged _ i').mp created'
    exact implInv.owned.unique o o' i' (estate_holds.mpr owned) (estate_holds.mpr owned')
  neverLost := by
    intro n known free
    obtain ⟨impl, found, attached⟩ := inv.unclaimed n known free
    obtain ⟨o, held, only⟩ := implInv.owned.existsUnique (r := n) (by simp [State.estate, found])
    have owned := estate_holds.mp held
    obtain ⟨thread, present, serial, _, _⟩ := inv.attached n impl found attached
    refine ⟨o, ⟨n, owned, (implInv.logged n n).mpr ⟨rfl, known⟩⟩, ?_, ?_⟩
    · refine ⟨some n, thread, owned, ?_, ?_, serial⟩
      · simp [State.pThread, found, joinable, ThreadImpl.joinable, attached]
      · simpa [State.pThread, found, getId] using present
    · rintro o' (⟨i, owned', created⟩ | ⟨obj, thread', owned', isJoinable, present', serial'⟩)
      · obtain ⟨rfl, _⟩ := (implInv.logged n i).mp created
        exact only o' (estate_holds.mpr owned')
      · -- a joinable object has the OS thread of its own `thread_impl`
        cases obj with
        | none => contradiction
        | some i =>
            cases found' : s.impls i with
            | none =>
                simp [State.pThread, found', joinable] at isJoinable
            | some impl' =>
                simp only [State.pThread, Option.bind_some, found', joinable,
                  ThreadImpl.joinable, Bool.not_eq_true', getId] at isJoinable present'
                obtain ⟨own, presentOwn, serialOwn, _, _⟩ := inv.attached i impl' found' isJoinable
                obtain rfl : own = thread' := Option.some.inj (presentOwn.symm.trans present')
                obtain rfl : i = n := serialOwn.symm.trans serial'
                exact only o' (estate_holds.mpr owned')
  claimedOnce := inv.once

/-- A call that throws changes nothing at all. -/
theorem joinObj_failed {env : Environment} {obj : Option ImplId} {error : SystemError}
    (failed : (s.call env (join (s.pThread obj))).1 = .error error) : s.joinObj env obj = s := by
  simp only [State.call] at failed
  simp only [State.joinObj, State.call]
  rcases join_run env s.os (s.pThread obj) with ⟨_, _, _, _, _, _, run⟩ | ⟨error, run⟩
  · rw [run] at failed
    contradiction
  · rw [run]

theorem detachObj_failed {env : Environment} {obj : Option ImplId} {error : SystemError}
    (failed : (s.call env (detach (s.pThread obj))).1 = .error error) :
    s.detachObj env obj = s := by
  simp only [State.call] at failed
  simp only [State.detachObj, State.call]
  rcases detach_run env s.os (s.pThread obj) with ⟨_, _, _, _, _, run⟩ | ⟨error, run⟩
  · rw [run] at failed
    contradiction
  · rw [run]

theorem failedCallKeeps (s : State) : FailedCallKeeps s := by
  intro o obj env error _
  constructor
  · intro failed x
    rw [joinObj_failed failed]
  · intro failed x
    rw [detachObj_failed failed]

end Objects

/-- In every run, with the OS threads that its joins and detaches have claimed, a
thread that is not claimed has one joinable object, none is claimed twice, and a
call that throws changes no object. -/
theorem threads_owned {acts : List Action} {s : State × List Nat}
    (run : Run (system.observed State.claims) Unrestricted acts s) :
    OwnsThreads s.1 s.2 ∧ FailedCallKeeps s.1 := by
  have inv : ImplInv s.1 ∧ ClaimInv s.1 s.2 := by
    refine run.observed_invariant (fun s claims => ImplInv s ∧ ClaimInv s claims) ?_ ?_
    · refine ⟨implInv_initial, ?_⟩
      constructor <;> simp [system, State.initial]
    · intro s claims a s' inv stepped
      have taken := step_taken stepped
      exact ⟨taken.implInv inv.1, taken.claimInv inv.1 inv.2⟩
  exact ⟨.of_inv inv.1 inv.2, failedCallKeeps s.1⟩

/-- A thread tries to join itself, ends and is joined; its identifier goes to a new
thread, whose object is moved into the one that was joined. -/
def joinedAndMoved : List Action :=
  [.user (.construct 0 ⟨0, 0, osPriorityNone, none⟩) ⟨1, .osOK, 9⟩,
    .user (.construct 1 ⟨0, 0, osPriorityNone, none⟩) ⟨2, .osOK, 9⟩,
    .user (.join 0) ⟨0, .osOK, 1⟩, .finish 1, .user (.join 0) ⟨0, .osOK, 9⟩,
    .user (.construct 2 ⟨0, 0, osPriorityNone, none⟩) ⟨1, .osOK, 9⟩,
    .user (.moveAssign 0 2) ⟨0, .osOK, 9⟩, .user (.detach 1) ⟨0, .osOK, 9⟩,
    .user (.destroy 2) ⟨0, .osOK, 9⟩]

theorem joinedAndMoved_owned :
    ∃ s, Run (system.observed State.claims) Unrestricted joinedAndMoved s ∧
      OwnsThreads s.1 s.2 ∧ FailedCallKeeps s.1 := by
  have run : Run (system.observed State.claims) Unrestricted _ _ :=
    Run.replayed joinedAndMoved rfl
  exact ⟨_, run, threads_owned run⟩

end CmsisCpp.Thread
