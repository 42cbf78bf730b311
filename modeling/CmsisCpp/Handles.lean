import CmsisCpp.Library.Ownership
import CmsisCpp.TimedCall

/-! # Objects that own an OS object

`message_queue_impl`, `event` and `base_memory_pool` have one member, the handle
`m_id` of an OS object.  An object that was moved from has a null handle.  The OS
objects, of a type `Os`, are created and deleted by OS calls; the three classes
differ in when they make them. -/
set_option autoImplicit false

namespace CmsisCpp

open Ownership

abbrev ObjId := Nat

/-- `objs` gives the `m_id` of the objects that exist; the three lists are the
handles created, passed to the OS for deletion, and deleted. -/
structure Handles (Os : Type) where
  objs : ObjId → Option Handle
  os : Handle → Option Os
  created : List Handle
  deleteCalls : List Handle
  deleted : List Handle

/-- What the OS may choose: the handle of a new object, `0` for a failure, and the
status of the deletion of a live one. -/
structure OsAnswers where
  newId : Handle
  deleteStatus : OsStatus
  deriving DecidableEq, Repr

namespace Handles

variable {Os : Type}

def initial : Handles Os where
  objs _ := none
  os _ := none
  created := []
  deleteCalls := []
  deleted := []

def setId (s : Handles Os) (o : ObjId) (id : Option Handle) : Handles Os :=
  { s with objs := Function.update s.objs o id }

def setOs (s : Handles Os) (id : Handle) (os : Os) : Handles Os :=
  { s with os := Function.update s.os id (some os) }

def osNew (s : Handles Os) (answers : OsAnswers) (os : Os) : Handle × Handles Os :=
  if answers.newId = 0 ∨ (s.os answers.newId).isSome = true then (0, s)
  else (answers.newId, { s with
    os := Function.update s.os answers.newId (some os)
    created := s.created ++ [answers.newId] })

/-- The OS call that deletes an object; `osErrorParameter` when there is none. -/
def osDelete (s : Handles Os) (answers : OsAnswers) (id : Handle) : OsStatus × Handles Os :=
  if (s.os id).isSome = true then
    if answers.deleteStatus = .osOK then
      (.osOK, { s with
        os := Function.update s.os id none
        deleteCalls := s.deleteCalls ++ [id]
        deleted := s.deleted ++ [id] })
    else (answers.deleteStatus, { s with deleteCalls := s.deleteCalls ++ [id] })
  else (.osErrorParameter, { s with deleteCalls := s.deleteCalls ++ [id] })

/-- `m_id(t.m_id)`, then `t.m_id = 0`. -/
def moveNull (s : Handles Os) (o source : ObjId) : Option (Handles Os) :=
  match s.objs o, s.objs source with
  | none, some id => some ((s.setId o (some id)).setId source (some 0))
  | _, _ => none

/-- `std::swap(m_id, t.m_id)`. -/
def swapIds (s : Handles Os) (o other : ObjId) : Option (Handles Os) :=
  match s.objs o, s.objs other with
  | some id, some id' => some ((s.setId o (some id')).setId other (some id))
  | _, _ => none

/-! ## Who owns what -/

def ownedBy : Option Handle → Option Handle
  | some id => if id = 0 then none else some id
  | none => none

def estate (s : Handles Os) : Estate ObjId Handle where
  holds o := ownedBy (s.objs o)
  live id := (s.os id).isSome = true
  created := s.created
  deleted := s.deleted

section Transfers
variable {s s' : Handles Os} {o source : ObjId} {id : Handle} {answers : OsAnswers}

theorem ownedBy_eq_some {m : Option Handle} : ownedBy m = some id ↔ m = some id ∧ id ≠ 0 := by
  cases m with
  | none => simp [ownedBy]
  | some id' =>
      by_cases null : id' = 0
      · simp only [ownedBy, if_pos null]
        constructor
        · intro contrary
          contradiction
        · rintro ⟨same, valid⟩
          rw [Option.some.injEq] at same
          exact absurd (same ▸ null) valid
      · simp only [ownedBy, if_neg null, Option.some.injEq]
        constructor
        · rintro rfl
          exact ⟨rfl, null⟩
        · exact And.left

/-- Two objects exchange what they own. -/
theorem setId_exchange {a b : ObjId} {x y : Option Handle} (first : ownedBy x = ownedBy (s.objs b))
    (second : ownedBy y = ownedBy (s.objs a)) :
    Transfers s.estate ((s.setId a x).setId b y).estate := by
  exact .single (.exchange a b (read_update_swap ownedBy first second) (fun r => Iff.rfl) rfl rfl)

structure Reassigned (s s' : Handles Os) : Prop where
  transfers : Transfers s.estate s'.estate
  os : s'.os = s.os
  deleteCalls : s'.deleteCalls = s.deleteCalls

theorem moveNull_reassigned (moved : s.moveNull o source = some s') : Reassigned s s' := by
  simp only [moveNull] at moved
  split at moved
  · rename_i id absent present
    cases moved
    refine ⟨setId_exchange ?_ ?_, rfl, rfl⟩
    · rw [present]
    · rw [absent]
      rfl
  · contradiction

theorem swapIds_reassigned (swapped : s.swapIds o source = some s') : Reassigned s s' := by
  simp only [swapIds] at swapped
  split at swapped
  · rename_i id id' present present'
    cases swapped
    refine ⟨setId_exchange ?_ ?_, rfl, rfl⟩
    · rw [present']
    · rw [present]
  · contradiction

theorem setId_empty {x : Option Handle} (before : ownedBy (s.objs o) = none)
    (after : ownedBy x = none) : (s.setId o x).estate = s.estate := by
  have holds : ∀ other, ownedBy (Function.update s.objs o x other) = ownedBy (s.objs other) := by
    intro other
    by_cases same : other = o
    · rw [same, Function.update_self, after, before]
    · rw [Function.update_of_ne same]
  simp only [estate, setId, holds]

theorem setId_congr {x : Option Handle} (same : s.estate = s'.estate) (objs : s.objs = s'.objs) :
    (s.setId o x).estate = (s'.setId o x).estate := by
  simp only [estate, Estate.mk.injEq] at same
  simp only [estate, setId, objs, same]

theorem setOs_estate {os os' : Os} (found : s.os id = some os) :
    (s.setOs id os').estate = s.estate := by
  have live : ∀ other, (Function.update s.os id (some os') other).isSome = (s.os other).isSome := by
    intro other
    by_cases same : other = id
    · rw [same, Function.update_self, found]
      rfl
    · rw [Function.update_of_ne same]
  simp only [estate, setOs, live]

theorem osNew_transfers {os : Os} (absent : s.objs o = none)
    (valid : (s.osNew answers os).1 ≠ 0) :
    Transfers s.estate ((s.osNew answers os).2.setId o (some (s.osNew answers os).1)).estate := by
  by_cases refused : answers.newId = 0 ∨ (s.os answers.newId).isSome = true
  · simp [osNew, refused] at valid
  · simp only [osNew, if_neg refused] at valid ⊢
    rw [not_or] at refused
    refine .single (.acquire o answers.newId ?_ refused.2 ?_ ?_ rfl rfl)
    · simp [estate, absent, ownedBy]
    · intro x
      by_cases same : x = o <;> simp [estate, setId, ownedBy, same, valid]
    · intro x
      by_cases same : x = answers.newId <;> simp [estate, setId, same]

/-- The object `o` deletes what it owns. -/
theorem osDelete_transfers {x : Option Handle} (owned : Owned s.estate)
    (found : s.objs o = some id) (valid : id ≠ 0) (ok : answers.deleteStatus = .osOK)
    (empty : ownedBy x = none) :
    (s.osDelete answers id).1 = .osOK ∧
      Transfers s.estate ((s.osDelete answers id).2.setId o x).estate := by
  have held : s.estate.holds o = some id := ownedBy_eq_some.mpr ⟨found, valid⟩
  have isLive : (s.os id).isSome = true := owned.live o id held
  simp only [osDelete, if_pos isLive, if_pos ok]
  refine ⟨trivial, .single (.release o id held ?_ ?_ rfl rfl)⟩
  · intro other
    by_cases same : other = o <;> simp [estate, setId, same, empty]
  · intro other
    by_cases same : other = id <;> simp [estate, setId, same]

@[simp] theorem osDelete_deleteCalls :
    (s.osDelete answers id).2.deleteCalls = s.deleteCalls ++ [id] := by
  unfold osDelete
  split
  · split <;> rfl
  · rfl

@[simp] theorem osNew_deleteCalls {os : Os} :
    (s.osNew answers os).2.deleteCalls = s.deleteCalls := by
  unfold osNew
  split <;> rfl

@[simp] theorem osNew_objs {os : Os} : (s.osNew answers os).2.objs = s.objs := by
  unfold osNew
  split <;> rfl

theorem osNew_failed {os : Os} (failed : (s.osNew answers os).1 = 0) :
    (s.osNew answers os).2 = s := by
  unfold osNew at failed ⊢
  split
  · rfl
  · rename_i accepted
    rw [if_neg accepted] at failed
    exact absurd (.inl failed) accepted

theorem deleteStatus_of_ok (ok : (s.osDelete answers id).1 = .osOK) :
    answers.deleteStatus = .osOK := by
  unfold osDelete at ok
  split at ok
  · split at ok
    · assumption
    · exact ok
  · contradiction

theorem osDelete_failed (failed : (s.osDelete answers id).1 ≠ .osOK) :
    (s.osDelete answers id).2 = { s with deleteCalls := s.deleteCalls ++ [id] } := by
  unfold osDelete at failed ⊢
  split
  · rename_i isLive
    rw [if_pos isLive] at failed
    split
    · rename_i ok
      rw [if_pos ok] at failed
      contradiction
    · rfl
  · rfl

/-- A deletion that is refused, or of nothing, leaves the OS objects alone. -/
theorem osDelete_os_of_not {x : Option Handle}
    (kept : ¬ ((s.os id).isSome = true ∧ answers.deleteStatus = .osOK)) :
    ((s.osDelete answers id).2.setId o x).os = s.os := by
  unfold osDelete
  split
  · rename_i isLive
    rw [if_neg fun ok => kept ⟨isLive, ok⟩]
    rfl
  · rfl

/-- A creation adds at most one OS object and a deletion adds none. -/
theorem osNew_os {os os' : Os} {x : Option Handle}
    (live : ((s.osNew answers os).2.setId o x).os id = some os') :
    s.os id = some os' ∨ (s.os id = none ∧ os = os') := by
  unfold osNew at live
  split at live
  · exact .inl live
  · rename_i accepted
    by_cases same : id = answers.newId
    · subst same
      rw [not_or, Option.not_isSome_iff_eq_none] at accepted
      right
      exact ⟨accepted.2, by simpa [setId] using live⟩
    · exact .inl (by simpa [setId, same] using live)

theorem osDelete_os {os : Os} {other : Handle}
    (live : (s.osDelete answers id).2.os other = some os) : s.os other = some os := by
  unfold osDelete at live
  split at live
  · split at live
    · by_cases same : other = id
      · simp [same] at live
      · simpa [same] using live
    · exact live
  · exact live

theorem os_null (owned : Owned s.estate) : (s.os 0).isSome = false := by
  rw [← Bool.not_eq_true]
  intro isLive
  obtain ⟨o, held⟩ := owned.held 0 isLive
  exact (ownedBy_eq_some.mp held).2 rfl

theorem osDelete_null (owned : Owned s.estate) : s.osDelete answers 0 =
    (.osErrorParameter, { s with deleteCalls := s.deleteCalls ++ [0] }) := by
  rw [osDelete, os_null owned, if_neg Bool.false_ne_true]

structure SoleOwners (s : Handles Os) : Prop where
  oneOwner : ∀ id, (s.os id).isSome = true → ∃! o, s.objs o = some id
  noDangling : ∀ o id, s.objs o = some id → id = 0 ∨ (s.os id).isSome = true
  deletedOnce : ∀ id, s.deleted.count id ≤ s.created.count id
  allDeleted : (∀ o, s.objs o = none) → s.deleted.Perm s.created

theorem soleOwners_of_owned (owned : Owned s.estate) : SoleOwners s where
  oneOwner := by
    intro id isLive
    obtain ⟨o, held, only⟩ := owned.existsUnique isLive
    obtain ⟨found, valid⟩ := ownedBy_eq_some.mp held
    refine ⟨o, found, ?_⟩
    intro other found'
    exact only other (ownedBy_eq_some.mpr ⟨found', valid⟩)
  noDangling := by
    intro o id found
    by_cases null : id = 0
    · exact .inl null
    · exact .inr (owned.live o id (ownedBy_eq_some.mpr ⟨found, null⟩))
  deletedOnce := owned.deleted_le
  allDeleted := by
    intro gone
    apply owned.settled
    intro o
    simp [estate, gone o, ownedBy]

theorem owned_initial : Owned (initial : Handles Os).estate := by
  constructor <;> simp [initial, estate, ownedBy]

/-! ## Deletions through owned handles only -/

/-- Every handle has one owner, and no null handle is passed to the OS for deletion. -/
structure OwnsSoundly (s : Handles Os) : Prop where
  sole : SoleOwners s
  nonnull : 0 ∉ s.deleteCalls

structure SoundInv (s : Handles Os) : Prop where
  owned : Owned s.estate
  nonnull : 0 ∉ s.deleteCalls

theorem SoundInv.ownsSoundly (inv : SoundInv s) : OwnsSoundly s :=
  ⟨soleOwners_of_owned inv.owned, inv.nonnull⟩

theorem soundInv_initial : SoundInv (initial : Handles Os) :=
  ⟨owned_initial, by simp [initial]⟩

theorem SoundInv.transfers (inv : SoundInv s) (transfers : Transfers s.estate s'.estate)
    (calls : s'.deleteCalls = s.deleteCalls) : SoundInv s' :=
  ⟨transfers.owned inv.owned, calls ▸ inv.nonnull⟩

theorem SoundInv.reassigned (inv : SoundInv s) (reassigned : Reassigned s s') : SoundInv s' :=
  inv.transfers reassigned.transfers reassigned.deleteCalls

theorem SoundInv.osDelete (inv : SoundInv s) {x : Option Handle} (found : s.objs o = some id)
    (valid : id ≠ 0) (ok : answers.deleteStatus = .osOK) (empty : ownedBy x = none) :
    SoundInv ((s.osDelete answers id).2.setId o x) where
  owned := (osDelete_transfers inv.owned found valid ok empty).2.owned inv.owned
  nonnull := by
    change 0 ∉ (s.osDelete answers id).2.deleteCalls
    simp [inv.nonnull, Ne.symm valid]

theorem SoundInv.osDelete_failed (inv : SoundInv s) (valid : id ≠ 0)
    (failed : (s.osDelete answers id).1 ≠ .osOK) : SoundInv (s.osDelete answers id).2 := by
  rw [Handles.osDelete_failed failed]
  exact ⟨inv.owned, by simp [inv.nonnull, Ne.symm valid]⟩

end Transfers

end Handles

end CmsisCpp
