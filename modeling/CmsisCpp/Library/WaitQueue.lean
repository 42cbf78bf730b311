import Mathlib.Data.List.Nodup
import Mathlib.Data.List.Perm.Basic
import CmsisCpp.Library.ActionSystem

/-! # A line of waiters

Items enrol at the end of a line and leave it served, from the front, or by
withdrawing from wherever they stand.  No item enrols twice.  The line keeps, in
order, all that ever enrolled, were served and withdrew; after every run these
account for each other, and nobody is served before one who enrolled earlier and
still waits. -/
set_option autoImplicit false

namespace WaitQueue

open ActionSystem

variable {Item : Type}

structure Line (Item : Type) where
  waiting : List Item
  enrolled : List Item
  served : List Item
  withdrawn : List Item
  deriving DecidableEq, Repr

inductive Move (Item : Type)
  | enrol (item : Item)
  | serve
  | withdraw (item : Item)
  deriving DecidableEq, Repr

/-- Everyone who enrolled waits, was served or withdrew, one of the three and once;
those served and those waiting stand in the order in which they enrolled. -/
structure Line.Fair (line : Line Item) : Prop where
  once : line.enrolled.Nodup
  accounted : line.enrolled.Perm (line.served ++ line.waiting ++ line.withdrawn)
  inOrder : (line.served ++ line.waiting).Sublist line.enrolled

namespace Line.Fair

variable {line : Line Item} (fair : line.Fair)
include fair

theorem all_nodup : (line.served ++ line.waiting ++ line.withdrawn).Nodup :=
  fair.accounted.nodup_iff.mp fair.once

theorem served_nodup : line.served.Nodup :=
  (List.nodup_append.mp (List.nodup_append.mp fair.all_nodup).1).1

theorem mem_enrolled_iff {item : Item} :
    item ∈ line.enrolled ↔ item ∈ line.served ∨ item ∈ line.waiting ∨ item ∈ line.withdrawn := by
  rw [fair.accounted.mem_iff, List.mem_append, List.mem_append, or_assoc]

theorem served_not_withdrawn {item : Item} (served : item ∈ line.served) :
    item ∉ line.withdrawn := by
  intro withdrawn
  have apart := (List.nodup_append.mp fair.all_nodup).2.2
  exact apart item (List.mem_append_left _ served) item withdrawn rfl

theorem waiting_not_withdrawn {item : Item} (waits : item ∈ line.waiting) :
    item ∉ line.withdrawn := by
  intro withdrawn
  have apart := (List.nodup_append.mp fair.all_nodup).2.2
  exact apart item (List.mem_append_right _ waits) item withdrawn rfl

theorem served_not_waiting {item : Item} (served : item ∈ line.served) :
    item ∉ line.waiting := by
  intro waits
  have apart := (List.nodup_append.mp (List.nodup_append.mp fair.all_nodup).1).2.2
  exact apart item served item waits rfl

end Line.Fair

section Moves
variable {line : Line Item}

theorem Line.fair_enrol {item : Item} (fair : line.Fair) (new : item ∉ line.enrolled) :
    Line.Fair { line with
      waiting := line.waiting ++ [item]
      enrolled := line.enrolled ++ [item] } where
  once := by
    rw [List.nodup_append]
    refine ⟨fair.once, List.nodup_singleton item, ?_⟩
    intro earlier member other isItem same
    rw [List.mem_singleton.mp isItem] at same
    exact new (same ▸ member)
  accounted := by
    have grown := fair.accounted.append_right [item]
    refine grown.trans ?_
    simp only [← List.append_assoc]
    rw [List.append_assoc _ line.withdrawn, List.append_assoc _ [item]]
    exact List.Perm.append_left _ List.perm_append_comm
  inOrder := by
    rw [← List.append_assoc]
    exact fair.inOrder.append (List.Sublist.refl [item])

theorem Line.fair_serve {item : Item} {rest : List Item} (fair : line.Fair)
    (front : line.waiting = item :: rest) :
    Line.Fair { line with waiting := rest, served := line.served ++ [item] } where
  once := fair.once
  accounted := by
    have before := fair.accounted
    rw [front] at before
    simpa using before
  inOrder := by
    have before := fair.inOrder
    rw [front] at before
    simpa using before

end Moves

variable [DecidableEq Item]

def Line.step (line : Line Item) : Move Item → Option (Line Item)
  | .enrol item =>
      if item ∈ line.enrolled then none
      else some { line with
        waiting := line.waiting ++ [item]
        enrolled := line.enrolled ++ [item] }
  | .serve =>
      match line.waiting with
      | [] => none
      | item :: rest => some { line with waiting := rest, served := line.served ++ [item] }
  | .withdraw item =>
      if item ∈ line.waiting then
        some { line with
          waiting := line.waiting.erase item
          withdrawn := line.withdrawn ++ [item] }
      else none

def system (Item : Type) [DecidableEq Item] : ActionSystem (Line Item) (Move Item) where
  initial := ⟨[], [], [], []⟩
  step := Line.step

theorem fair_initial : (system Item).initial.Fair where
  once := List.nodup_nil
  accounted := List.Perm.refl _
  inOrder := List.Sublist.refl _

section Step
variable {line line' : Line Item}

theorem Line.fair_withdraw {item : Item} (fair : line.Fair) (waits : item ∈ line.waiting) :
    Line.Fair { line with
      waiting := line.waiting.erase item
      withdrawn := line.withdrawn ++ [item] } where
  once := fair.once
  accounted := by
    have moved : line.waiting.Perm (line.waiting.erase item ++ [item]) :=
      (List.perm_cons_erase waits).trans (List.perm_append_singleton item _).symm
    refine fair.accounted.trans ?_
    refine ((moved.append_left line.served).append_right line.withdrawn).trans ?_
    simp only [List.append_assoc]
    refine List.Perm.append_left _ (List.Perm.append_left _ ?_)
    exact List.perm_append_comm
  inOrder :=
    (List.Sublist.append (List.Sublist.refl line.served) List.erase_sublist).trans fair.inOrder

theorem Line.step_fair {move : Move Item} (fair : line.Fair) (taken : line.step move = some line') :
    line'.Fair := by
  cases move with
  | enrol item =>
      simp only [Line.step, Option.ite_none_left_eq_some, Option.some.injEq] at taken
      obtain ⟨new, rfl⟩ := taken
      exact Line.fair_enrol fair new
  | serve =>
      simp only [Line.step] at taken
      split at taken
      · contradiction
      · rename_i item rest front
        cases taken
        exact Line.fair_serve fair front
  | withdraw item =>
      simp only [Line.step, Option.ite_none_right_eq_some, Option.some.injEq] at taken
      obtain ⟨waits, rfl⟩ := taken
      exact Line.fair_withdraw fair waits

end Step

end WaitQueue
