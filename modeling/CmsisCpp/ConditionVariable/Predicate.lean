import CmsisCpp.ConditionVariable.History
import CmsisCpp.Library.Refinement

/-! # Waiting for a predicate

Source: the overloads of `wait`, `wait_for` and `wait_until` with a predicate in
`include/ConditionVariable.h`.

    while (!pred())
    {
        if (wait_until(lock, abs_time) == cv_status::timeout)
            return pred();
    }
    return true;

`wait` has the same loop without the test of the status, and `wait_for` computes
`abs_time` and runs the loop of `wait_until`.  The predicates look at data of an
arbitrary type that is guarded by one lock: only its owner changes them.  The
waits in the loops are those of the threads of the condition variable, with every
interleaving, early expiry and exception they have. -/
set_option autoImplicit false

namespace CmsisCpp.ConditionVariable

/-! ## How a wait is left -/

section Call
variable {freq : Int} {s s' : State} {t : ThreadId} {answer : Answer}

theorem ReleaseTarget.outside {c : Call} {next : Pc} (target : ReleaseTarget s t c next) :
    (s.pc t).inCall = false := by
  cases target with
  | front pc list => rw [pc]; rfl
  | each pc => rw [pc]; rfl

theorem Taken.exits (taken : Taken freq s t answer s') (inCall : (s.pc t).inCall = true)
    (idle : s'.pc t = .idle) :
    ∃ exit, s'.log.getLast? = some (.left (s.current t) (s.args t).usec exit (s.ownsLock t)) ∧
      s'.owner = s.owner ∧ (s.pc t = .leave exit ∨ ∃ exn, exit = .threw exn) := by
  cases taken with
  | noSemaphore pc =>
      exact ⟨_, List.getLast?_concat, rfl, .inr ⟨_, rfl⟩⟩
  | @left exit pc =>
      exact ⟨exit, List.getLast?_concat, rfl, .inl pc⟩
  | dangling target destroyed => simp [target.outside] at inCall
  | overflowed target found full => simp [target.outside] at inCall
  | released target found room => simp [target.outside] at inCall
  | eraseMissing pc missing => simp [State.record, pc] at idle
  | _ =>
      simp_all [State.goto, State.setSema, State.record, State.unlockMutex, Pc.inCall,
        Pc.hasSemaphore]

theorem Taken.staysInCall (taken : Taken freq s t answer s') (inCall : (s.pc t).inCall = true)
    (busy : s'.pc t ≠ .idle) : (s'.pc t).inCall = true ∧ s'.args t = s.args t := by
  cases taken with
  | dangling target destroyed => exact ⟨inCall, rfl⟩
  | overflowed target found full => exact ⟨inCall, rfl⟩
  | eraseMissing pc missing => exact ⟨inCall, rfl⟩
  | released target found room => simp [target.outside] at inCall
  | left pc => simp [State.finish, State.goto] at busy
  | noSemaphore pc => simp [State.finish, State.goto] at busy
  | _ =>
      simp_all [State.goto, State.setSema, State.record, State.unlockMutex, Pc.inCall,
        Pc.hasSemaphore]

theorem waitForUsec_started (l : LockId) (usec : Int) :
    (s.waitForUsec t l usec).status ≠ .running ∨
      (((s.waitForUsec t l usec).pc t).inCall = true ∧
        ((s.waitForUsec t l usec).args t).lock = l) := by
  rw [State.waitForUsec]
  split
  · right
    simp [Pc.inCall]
  · left
    simp

end Call

end CmsisCpp.ConditionVariable

namespace CmsisCpp.ConditionVariable.Predicate

open ActionSystem

/-! ## The loops -/

inductive Form
  -- wait(lock, pred)
  | untimed
  -- wait_for(lock, rel_time, pred), wait_until(lock, abs_time, pred)
  | timed
  deriving DecidableEq, Repr

inductive Point
  | test
  | call
  | waiting
  | lastTest
  deriving DecidableEq, Repr

variable {Data : Type}

/-- A call in progress.  Two marks record its past: whether its thread owned the
lock when it was made, and whether it has come to wait. -/
structure Loop (Data : Type) where
  form : Form
  lock : LockId
  pred : Data → Bool
  point : Point
  entered : Bool
  waited : Bool

inductive Ending
  | returned (value : Bool)
  | threw (exn : Exn)
  deriving DecidableEq, Repr

/-- A call that is over: how it ended, what the predicate said and who owned the
lock then. -/
structure Result where
  thread : ThreadId
  form : Form
  ending : Ending
  holds : Bool
  ownsLock : Bool
  entered : Bool
  waited : Bool
  deriving DecidableEq, Repr

structure State (Data : Type) where
  cv : ConditionVariable.State
  data : Data
  loops : ThreadId → Option (Loop Data)
  results : List Result

inductive Action (Data : Type)
  | enter (t : ThreadId) (form : Form) (l : LockId) (pred : Data → Bool)
  | test (t : ThreadId)
  -- the call of `wait` or `wait_until`, whose `abs_time - Clock::now()` is `relTime`
  | call (t : ThreadId) (relTime : Duration)
  | lastTest (t : ThreadId)
  | write (t : ThreadId) (data : Data)
  | other (a : ConditionVariable.Action)

def Action.thread : Action Data → ThreadId
  | .enter t _ _ _ => t
  | .test t => t
  | .call t _ => t
  | .lastTest t => t
  | .write t _ => t
  | .other a => a.thread

namespace State

def setLoop (s : State Data) (t : ThreadId) (loop : Option (Loop Data)) : State Data :=
  { s with loops := Function.update s.loops t loop }

def finish (s : State Data) (t : ThreadId) (loop : Loop Data) (ending : Ending) : State Data :=
  { s with
    loops := Function.update s.loops t none
    results := s.results ++ [⟨t, loop.form, ending, loop.pred s.data,
      s.cv.owner loop.lock = some t, loop.entered, loop.waited⟩] }

def resume (s : State Data) (t : ThreadId) (loop : Loop Data) : Exit → State Data
  | .returned .noTimeout => s.setLoop t (some { loop with point := .test })
  | .returned .timeout =>
      match loop.form with
      | .untimed => s.setLoop t (some { loop with point := .test })
      | .timed => s.setLoop t (some { loop with point := .lastTest })
  | .threw exn => s.finish t loop (.threw exn)

def operation (loop : Loop Data) (relTime : Duration) : Operation :=
  match loop.form with
  | .untimed => .wait loop.lock
  | .timed => .waitUntil loop.lock relTime

/-- A step of a waiting thread; the exit of its wait is the last event it logs. -/
def advance (s : State Data) (t : ThreadId) (loop : Loop Data) (cv : ConditionVariable.State) :
    State Data :=
  if cv.pc t = .idle then
    match cv.log.getLast? with
    | some (.left _ _ exit _) => { s with cv := cv }.resume t loop exit
    | _ => { s with cv := cv }
  else { s with cv := cv }

def step (freq : Int) (guard : LockId) (s : State Data) : Action Data → Option (State Data)
  | .enter t form l pred =>
      match s.loops t with
      | some _ => none
      | none =>
          if s.cv.pc t = .idle then
            some (s.setLoop t (some ⟨form, l, pred, .test, s.cv.owner l = some t, false⟩))
          else none
  | .test t =>
      match s.loops t with
      | none => none
      | some loop =>
          if loop.point = .test then
            if loop.pred s.data then some (s.finish t loop (.returned true))
            else some (s.setLoop t (some { loop with point := .call }))
          else none
  | .call t relTime =>
      match s.loops t with
      | none => none
      | some loop =>
          if loop.point = .call then
            (s.cv.step freq (.start t (operation loop relTime))).map fun cv =>
              if loop.form = .timed ∧ relTime.isNegative then
                { s with cv := cv }.setLoop t (some { loop with point := .lastTest })
              else
                { s with cv := cv }.setLoop t (some { loop with point := .waiting, waited := true })
          else none
  | .lastTest t =>
      match s.loops t with
      | none => none
      | some loop =>
          if loop.point = .lastTest then some (s.finish t loop (.returned (loop.pred s.data)))
          else none
  | .write t data =>
      match s.loops t with
      | some _ => none
      | none =>
          if s.cv.pc t = .idle ∧ s.cv.owner guard = some t then some { s with data := data }
          else none
  | .other a =>
      match s.loops a.thread, a with
      | none, a => (s.cv.step freq a).map fun cv => { s with cv := cv }
      | some loop, .next t answer =>
          if loop.point = .waiting then
            (s.cv.step freq (.next t answer)).map (s.advance t loop)
          else none
      | some _, .start _ _ => none

end State

/-- The threads, the guarded data and the predicate waits; nothing goes on once the
program has ended. -/
def system (freq : Int) (guard : LockId) (data : Data) : ActionSystem (State Data) (Action Data) where
  initial := ⟨.initial, data, fun _ => none, []⟩
  step s a := if s.cv.status = .running then s.step freq guard a else none

/-! ## The wait in the body of the loop -/

theorem operation_started {freq : Int} {cv cv' : ConditionVariable.State} {t : ThreadId}
    {loop : Loop Data} {relTime : Duration}
    (stepped : cv.step freq (.start t (State.operation loop relTime)) = some cv') :
    cv.pc t = .idle ∧ if loop.form = .timed ∧ relTime.isNegative then cv' = cv
      else cv'.status ≠ .running ∨
        ((cv'.pc t).inCall = true ∧ (cv'.args t).lock = loop.lock) := by
  simp only [ConditionVariable.State.step, Option.ite_none_right_eq_some] at stepped
  obtain ⟨_, idle, started⟩ := stepped
  refine ⟨idle, ?_⟩
  cases form : loop.form with
  | untimed =>
      simp only [State.operation, form, ConditionVariable.State.startOperation,
        Option.some.injEq] at started
      subst started
      rw [if_neg fun expired => absurd expired.1 (by decide)]
      exact waitForUsec_started loop.lock _
  | timed =>
      simp only [State.operation, form, ConditionVariable.State.startOperation] at started
      by_cases negative : relTime.isNegative
      · rw [if_pos negative, Option.some.injEq] at started
        rw [if_pos ⟨rfl, negative⟩, started]
      · rw [if_neg negative, Option.some.injEq] at started
        subst started
        rw [if_neg fun expired => negative expired.2]
        exact waitForUsec_started loop.lock _

/-! ## What holds in the loops -/

structure LoopInv (cv : ConditionVariable.State) (t : ThreadId) (loop : Loop Data) : Prop where
  waiting : loop.point = .waiting → (cv.pc t).inCall = true ∧ (cv.args t).lock = loop.lock
  outside : loop.point ≠ .waiting → cv.pc t = .idle
  owns : loop.point ≠ .waiting → loop.entered = true ∨ loop.waited = true →
    cv.owner loop.lock = some t
  timed : loop.point = .lastTest → loop.form = .timed

/-- A call returns what the predicate says then, without a deadline only true, and
with its lock held if the lock was held on entry or the call has waited. -/
structure Result.Sound (r : Result) : Prop where
  value : ∀ value, r.ending = .returned value → r.holds = value
  untimed : r.form = .untimed → r.ending ≠ .returned false
  owned : ∀ value, r.ending = .returned value → r.entered = true ∨ r.waited = true →
    r.ownsLock = true

structure Inv (freq : Int) (s : State Data) : Prop where
  cv : Invariants freq s.cv
  loops : s.cv.status = .running → ∀ t loop, s.loops t = some loop → LoopInv s.cv t loop
  results : ∀ r ∈ s.results, r.Sound

section Loops
variable {freq : Int} {cv cv' : ConditionVariable.State} {t other : ThreadId} {answer : Answer}
  {loop : Loop Data}

theorem LoopInv.of_other (inv : LoopInv cv other loop) (taken : Taken freq cv t answer cv')
    (lock : LockInv cv) (ne : other ≠ t) : LoopInv cv' other loop where
  waiting point := by
    rw [taken.pc_other ne, taken.args_other ne]
    exact inv.waiting point
  outside point := by
    rw [taken.pc_other ne]
    exact inv.outside point
  owns point past := taken.owner_other lock ne (inv.owns point past)
  timed := inv.timed

theorem LoopInv.idle {point : Point} (notWaiting : point ≠ .waiting) (idle : cv.pc t = .idle)
    (owns : loop.entered = true ∨ loop.waited = true → cv.owner loop.lock = some t)
    (timed : point = .lastTest → loop.form = .timed) :
    LoopInv cv t { loop with point := point } where
  waiting at_ := absurd at_ notWaiting
  outside _ := idle
  owns _ past := owns past
  timed := timed

end Loops

section Step
variable {freq : Int} {guard : LockId} {s s' : State Data} {t : ThreadId} {loop : Loop Data}

theorem Inv.others {cv' : ConditionVariable.State} {answer : Answer} (inv : Inv freq s)
    (running : s.cv.status = .running) (taken : Taken freq s.cv t answer cv')
    {other : ThreadId} (ne : other ≠ t) (inLoop : s.loops other = some loop) :
    LoopInv cv' other loop :=
  (inv.loops running other loop inLoop).of_other taken inv.cv.lock ne

theorem Inv.setLoop {cv' : ConditionVariable.State} (kept : Invariants freq cv')
    (others : cv'.status = .running → ∀ other loop, other ≠ t → s.loops other = some loop →
      LoopInv cv' other loop)
    (own : cv'.status = .running → LoopInv cv' t loop) (results : ∀ r ∈ s.results, r.Sound) :
    Inv freq ({ s with cv := cv' }.setLoop t (some loop)) where
  cv := kept
  loops running other loop' inLoop := by
    by_cases same : other = t
    · subst same
      simp only [State.setLoop, Function.update_self, Option.some.injEq] at inLoop
      rw [← inLoop]
      exact own running
    · simp only [State.setLoop, Function.update_of_ne same] at inLoop
      exact others running other loop' same inLoop
  results := results

theorem Inv.finish {cv' : ConditionVariable.State} {ending : Ending} (kept : Invariants freq cv')
    (others : cv'.status = .running → ∀ other loop, other ≠ t → s.loops other = some loop →
      LoopInv cv' other loop)
    (results : ∀ r ∈ s.results, r.Sound)
    (value : ∀ value, ending = .returned value → loop.pred s.data = value)
    (untimed : loop.form = .untimed → ending ≠ .returned false)
    (owned : ∀ value, ending = .returned value → loop.entered = true ∨ loop.waited = true →
      cv'.owner loop.lock = some t) : Inv freq ({ s with cv := cv' }.finish t loop ending) where
  cv := kept
  loops running other loop' inLoop := by
    by_cases same : other = t
    · subst same
      simp [State.finish] at inLoop
    · simp only [State.finish, Function.update_of_ne same] at inLoop
      exact others running other loop' same inLoop
  results r member := by
    rcases List.mem_append.mp member with old | new
    · exact results r old
    · rw [List.mem_singleton.mp new]
      constructor
      · exact value
      · exact untimed
      · intro value' ended past
        exact decide_eq_true (owned value' ended past)

/-- A loop that was left waiting has come back from its wait. -/
theorem Inv.resume {cv' : ConditionVariable.State} {exit : Exit} (kept : Invariants freq cv')
    (others : cv'.status = .running → ∀ other loop, other ≠ t → s.loops other = some loop →
      LoopInv cv' other loop)
    (results : ∀ r ∈ s.results, r.Sound) (idle : cv'.pc t = .idle)
    (owns : ∀ status, exit = .returned status → cv'.owner loop.lock = some t) :
    Inv freq ({ s with cv := cv' }.resume t loop exit) := by
  cases exit with
  | returned status =>
      have mine := owns status rfl
      have tests : Inv freq ({ s with cv := cv' }.setLoop t (some { loop with point := .test })) :=
        .setLoop kept others (fun _ => .idle (by simp) idle (fun _ => mine) (by simp)) results
      cases status with
      | noTimeout => exact tests
      | timeout =>
          simp only [State.resume]
          split
          · exact tests
          · rename_i form
            exact .setLoop kept others
              (fun _ => .idle (by simp) idle (fun _ => mine) fun _ => form) results
  | threw exn =>
      refine .finish kept others results ?_ ?_ ?_
      · intro value ended
        contradiction
      · intro _ ended
        contradiction
      · intro value ended
        contradiction

/-- A step of a thread inside the wait of its loop. -/
theorem Inv.advance {cv' : ConditionVariable.State} {answer : Answer} (inv : Inv freq s)
    (running : s.cv.status = .running) (inLoop : s.loops t = some loop)
    (point : loop.point = .waiting) (taken : Taken freq s.cv t answer cv') :
    Inv freq (s.advance t loop cv') := by
  have loopInv := inv.loops running t loop inLoop
  obtain ⟨inCall, lock⟩ := loopInv.waiting point
  have kept := taken.invariants inv.cv
  have others : cv'.status = .running → ∀ other loop, other ≠ t → s.loops other = some loop →
      LoopInv cv' other loop := fun _ _ _ ne inOther => inv.others running taken ne inOther
  by_cases idle : cv'.pc t = .idle
  · obtain ⟨exit, last, owner, leaves⟩ := taken.exits inCall idle
    simp only [State.advance, idle, last, if_true]
    refine .resume kept others inv.results idle ?_
    rintro status rfl
    have holds : (s.cv.pc t).holdsLock = true := by
      rcases leaves with pc | ⟨exn, threw⟩
      · rw [pc]
        rfl
      · contradiction
    rw [owner, ← lock]
    exact inv.cv.lock t holds
  · obtain ⟨inCall', args⟩ := taken.staysInCall inCall idle
    simp only [State.advance, if_neg idle]
    refine ⟨kept, ?_, inv.results⟩
    intro running' other loop' inOther
    by_cases same : other = t
    · subst same
      have sameLoop : loop = loop' := Option.some.inj (inLoop.symm.trans inOther)
      subst sameLoop
      refine ⟨fun _ => ⟨inCall', by rw [args, lock]⟩, ?_, ?_, loopInv.timed⟩
      · exact fun notWaiting => absurd point notWaiting
      · exact fun notWaiting => absurd point notWaiting
    · exact others running' other loop' same inOther

theorem Inv.step {a : Action Data} (inv : Inv freq s) (running : s.cv.status = .running)
    (stepped : s.step freq guard a = some s') : Inv freq s' := by
  have unmoved : s.cv.status = .running → ∀ other loop, other ≠ a.thread →
      s.loops other = some loop → LoopInv s.cv other loop :=
    fun running other loop _ inLoop => inv.loops running other loop inLoop
  cases a with
  | enter t form l pred =>
      simp only [State.step] at stepped
      split at stepped
      · contradiction
      · simp only [Option.ite_none_right_eq_some, Option.some.injEq] at stepped
        obtain ⟨idle, rfl⟩ := stepped
        refine .setLoop inv.cv unmoved (fun _ => ?_) inv.results
        refine ⟨by simp, fun _ => idle, ?_, by simp⟩
        intro _ past
        rcases past with entered | waited
        · exact of_decide_eq_true entered
        · contradiction
  | test t =>
      simp only [State.step] at stepped
      split at stepped
      · contradiction
      · rename_i loop inLoop
        simp only [Option.ite_none_right_eq_some] at stepped
        obtain ⟨point, stepped⟩ := stepped
        have loopInv := inv.loops running t loop inLoop
        have notWaiting : loop.point ≠ .waiting := by simp [point]
        split at stepped
        · rename_i holds
          cases stepped
          refine .finish inv.cv unmoved inv.results ?_ ?_ ?_
          · rintro value ⟨rfl⟩
            exact holds
          · exact fun _ ended => by cases ended
          · exact fun _ _ past => loopInv.owns notWaiting past
        · cases stepped
          refine .setLoop inv.cv unmoved (fun _ => ?_) inv.results
          exact .idle (by simp) (loopInv.outside notWaiting) (loopInv.owns notWaiting) (by simp)
  | call t relTime =>
      simp only [State.step] at stepped
      split at stepped
      · contradiction
      · rename_i loop inLoop
        simp only [Option.ite_none_right_eq_some] at stepped
        obtain ⟨point, stepped⟩ := stepped
        obtain ⟨cv', started, rfl⟩ := Option.map_eq_some_iff.mp stepped
        have loopInv := inv.loops running t loop inLoop
        have notWaiting : loop.point ≠ .waiting := by simp [point]
        have taken := (step_taken started).2
        have others : cv'.status = .running → ∀ other loop, other ≠ t →
            s.loops other = some loop → LoopInv cv' other loop :=
          fun _ _ _ ne inOther => inv.others running taken ne inOther
        obtain ⟨idle, outcome⟩ := operation_started started
        split
        · rename_i expired
          rw [if_pos expired] at outcome
          refine .setLoop (taken.invariants inv.cv) others (fun _ => ?_) inv.results
          rw [outcome]
          exact .idle (by simp) idle (loopInv.owns notWaiting) fun _ => expired.1
        · rename_i goesOn
          rw [if_neg goesOn] at outcome
          refine .setLoop (taken.invariants inv.cv) others (fun running' => ?_) inv.results
          have inCall := outcome.resolve_left (fun ended => ended running')
          refine ⟨fun _ => inCall, ?_, ?_, ?_⟩ <;> simp
  | lastTest t =>
      simp only [State.step] at stepped
      split at stepped
      · contradiction
      · rename_i loop inLoop
        simp only [Option.ite_none_right_eq_some, Option.some.injEq] at stepped
        obtain ⟨point, rfl⟩ := stepped
        have loopInv := inv.loops running t loop inLoop
        have notWaiting : loop.point ≠ .waiting := by simp [point]
        refine .finish inv.cv unmoved inv.results ?_ ?_ ?_
        · rintro value ⟨rfl⟩
          rfl
        · intro untimed
          rw [loopInv.timed point] at untimed
          contradiction
        · exact fun _ _ past => loopInv.owns notWaiting past
  | write t data =>
      simp only [State.step] at stepped
      split at stepped
      · contradiction
      · simp only [Option.ite_none_right_eq_some, Option.some.injEq] at stepped
        obtain ⟨_, rfl⟩ := stepped
        exact ⟨inv.cv, inv.loops, inv.results⟩
  | other a =>
      simp only [State.step] at stepped
      split at stepped
      · rename_i a' outside
        obtain ⟨cv', taken, rfl⟩ := Option.map_eq_some_iff.mp stepped
        have taken := (step_taken taken).2
        refine ⟨taken.invariants inv.cv, ?_, inv.results⟩
        intro _ other loop inLoop
        refine inv.others running taken ?_ inLoop
        rintro rfl
        rw [outside] at inLoop
        contradiction
      · rename_i loop t answer inLoop
        simp only [Option.ite_none_right_eq_some] at stepped
        obtain ⟨point, stepped⟩ := stepped
        obtain ⟨cv', taken, rfl⟩ := Option.map_eq_some_iff.mp stepped
        exact inv.advance running inLoop point (step_taken taken).2
      · contradiction

end Step

theorem run_inv {freq : Int} {guard : LockId} {data : Data}
    {allowed : State Data → Action Data → Prop} {acts : List (Action Data)} {s : State Data}
    (run : Run (system freq guard data) allowed acts s) : Inv freq s := by
  refine run.invariant (Inv freq) ⟨.initial freq, ?_, ?_⟩ ?_
  · intro _ t loop inLoop
    contradiction
  · intro r member
    contradiction
  · intro s a s' inv _ stepped
    obtain ⟨running, stepped⟩ := Option.ite_none_right_eq_some.mp stepped
    exact inv.step running stepped

/-! ## The guarded data -/

section Frame
variable {freq : Int} {guard : LockId} {s s' : State Data} {t : ThreadId} {loop : Loop Data}

theorem State.resume_frame (exit : Exit) :
    (s.resume t loop exit).cv = s.cv ∧ (s.resume t loop exit).data = s.data := by
  unfold State.resume
  split
  · exact ⟨rfl, rfl⟩
  · split <;> exact ⟨rfl, rfl⟩
  · exact ⟨rfl, rfl⟩

theorem State.advance_frame (cv' : ConditionVariable.State) :
    (s.advance t loop cv').cv = cv' ∧ (s.advance t loop cv').data = s.data := by
  unfold State.advance
  split
  · split
    · exact State.resume_frame _
    · exact ⟨rfl, rfl⟩
  · exact ⟨rfl, rfl⟩

/-- Only the owner of the lock changes the data, and only a step of a thread of the
condition variable changes who that is. -/
theorem step_frame {a : Action Data} (stepped : s.step freq guard a = some s') :
    (s'.cv = s.cv ∨ ∃ answer, Taken freq s.cv a.thread answer s'.cv) ∧
      (s'.data = s.data ∨ s.cv.owner guard = some a.thread) := by
  cases a with
  | enter t form l pred =>
      simp only [State.step] at stepped
      split at stepped
      · contradiction
      · simp only [Option.ite_none_right_eq_some, Option.some.injEq] at stepped
        obtain ⟨_, rfl⟩ := stepped
        exact ⟨.inl rfl, .inl rfl⟩
  | test t =>
      simp only [State.step] at stepped
      split at stepped
      · contradiction
      · simp only [Option.ite_none_right_eq_some] at stepped
        obtain ⟨_, stepped⟩ := stepped
        split at stepped <;> cases stepped <;> exact ⟨.inl rfl, .inl rfl⟩
  | call t relTime =>
      simp only [State.step] at stepped
      split at stepped
      · contradiction
      · simp only [Option.ite_none_right_eq_some] at stepped
        obtain ⟨_, stepped⟩ := stepped
        obtain ⟨cv', started, rfl⟩ := Option.map_eq_some_iff.mp stepped
        have taken := (step_taken started).2
        split <;> exact ⟨.inr ⟨_, taken⟩, .inl rfl⟩
  | lastTest t =>
      simp only [State.step] at stepped
      split at stepped
      · contradiction
      · simp only [Option.ite_none_right_eq_some, Option.some.injEq] at stepped
        obtain ⟨_, rfl⟩ := stepped
        exact ⟨.inl rfl, .inl rfl⟩
  | write t data =>
      simp only [State.step] at stepped
      split at stepped
      · contradiction
      · simp only [Option.ite_none_right_eq_some, Option.some.injEq] at stepped
        obtain ⟨⟨_, owned⟩, rfl⟩ := stepped
        exact ⟨.inl rfl, .inr owned⟩
  | other a =>
      simp only [State.step] at stepped
      split at stepped
      · obtain ⟨cv', taken, rfl⟩ := Option.map_eq_some_iff.mp stepped
        exact ⟨.inr ⟨_, (step_taken taken).2⟩, .inl rfl⟩
      · simp only [Option.ite_none_right_eq_some] at stepped
        obtain ⟨_, stepped⟩ := stepped
        obtain ⟨cv', taken, rfl⟩ := Option.map_eq_some_iff.mp stepped
        obtain ⟨cv, data⟩ := @State.advance_frame Data s _ _ cv'
        rw [cv, data]
        exact ⟨.inr ⟨_, (step_taken taken).2⟩, .inl rfl⟩
      · contradiction

/-- While a thread owns the guarding lock and takes no step, the data stay as they are. -/
theorem Inv.path_guarded {data : Data} {more : List (Action Data)}
    (path : (system freq guard data).Path s more s') :
    Inv freq s → s.cv.owner guard = some t → (∀ a ∈ more, a.thread ≠ t) →
      s'.data = s.data ∧ s'.cv.owner guard = some t := by
  induction path with
  | stay s => exact fun _ owned _ => ⟨rfl, owned⟩
  | @step s middle s' a more taken rest ih =>
      intro inv owned others
      obtain ⟨running, stepped⟩ := Option.ite_none_right_eq_some.mp taken
      have ne : t ≠ a.thread := Ne.symm (others a List.mem_cons_self)
      obtain ⟨moved, written⟩ := step_frame stepped
      have owned' : middle.cv.owner guard = some t := by
        rcases moved with same | ⟨answer, moved⟩
        · rw [same, owned]
        · exact moved.owner_other inv.cv.lock ne owned
      have kept : middle.data = s.data := by
        refine written.resolve_right ?_
        intro writer
        rw [owned] at writer
        exact ne (Option.some.inj writer)
      have later := ih (inv.step running stepped) owned'
        fun a member => others a (List.mem_cons_of_mem _ member)
      rwa [kept] at later

end Frame

/-- Every call that is over was sound, and what a thread that owns the guarding lock
has read of the data stays true until it goes on. -/
structure WaitsSoundly (freq : Int) (guard : LockId) (data : Data) (s : State Data) : Prop where
  results : ∀ r ∈ s.results, r.Sound
  stable : ∀ t, s.cv.owner guard = some t → ∀ more s',
    (system freq guard data).Path s more s' → (∀ a ∈ more, a.thread ≠ t) →
      s'.data = s.data ∧ s'.cv.owner guard = some t

theorem run_waitsSoundly {freq : Int} {guard : LockId} {data : Data}
    {allowed : State Data → Action Data → Prop} {acts : List (Action Data)} {s : State Data}
    (run : Run (system freq guard data) allowed acts s) : WaitsSoundly freq guard data s where
  results := (run_inv run).results
  stable _ owned _ _ path others := (run_inv run).path_guarded path owned others

/-- Thread 0 waits until the number is positive; its wait expires once before thread
1 sets the number. -/
def waitsForPositive : List (Action Nat) :=
  [.other (.start 0 (.lock 0)), .enter 0 .untimed 0 (fun n => 0 < n), .test 0,
    .call 0 (.microseconds 0), .other (.next 0 (.handle 1)), .other (.next 0 .done),
    .other (.next 0 (.allocated true)), .other (.next 0 .done), .other (.next 0 .done),
    .other (.next 0 (.status .osErrorResource)), .other (.start 1 (.lock 0)), .write 1 7,
    .other (.start 1 (.unlock 0))] ++ List.replicate 5 (.other (.next 0 .done)) ++ [.test 0]

theorem waitsForPositive_sound :
    ∃ s, Run (system 1000 0 0) Unrestricted waitsForPositive s ∧ s.results.length = 1 ∧
      WaitsSoundly 1000 0 0 s := by
  have run : Run (system 1000 0 0) Unrestricted _ _ := Run.replayed waitsForPositive rfl
  exact ⟨_, run, rfl, run_waitsSoundly run⟩

end CmsisCpp.ConditionVariable.Predicate
