import Mathlib.Data.List.Nodup
import Mathlib.Order.Lattice

/-! # Queues by priority

An arrival goes behind everything of its own and of higher priority; departures are
from the front.  The order of a pair of items in a list is `[a, b] <+ list`.  No item
overtakes one that arrived earlier and has at least its priority. -/
set_option autoImplicit false

namespace PriorityQueue

open scoped List

section Before
variable {Item : Type} {a b : Item} {items more : List Item}

theorem before_or (ne : a ≠ b) (hasA : a ∈ items) (hasB : b ∈ items) :
    [a, b] <+ items ∨ [b, a] <+ items := by
  induction items with
  | nil => contradiction
  | cons head rest ih =>
      rcases List.mem_cons.mp hasA with rfl | laterA
      · have laterB : b ∈ rest := (List.mem_cons.mp hasB).resolve_left (Ne.symm ne)
        exact .inl ((List.singleton_sublist.mpr laterB).cons_cons a)
      · rcases List.mem_cons.mp hasB with rfl | laterB
        · exact .inr ((List.singleton_sublist.mpr laterA).cons_cons b)
        · rcases ih laterA laterB with before | before
          · exact .inl (before.cons head)
          · exact .inr (before.cons head)

/-- The order of a pair in the first of two lists is that of its second item. -/
theorem before_of_append (once : (items ++ more).Nodup) (before : [a, b] <+ items ++ more)
    (hasB : b ∈ items) : [a, b] <+ items := by
  obtain ⟨first, second, split, inItems, inMore⟩ := List.sublist_append_iff.mp before
  have notMore : b ∉ more := (List.nodup_append'.mp once).2.2 hasB
  cases second with
  | nil =>
      rw [split, List.append_nil]
      exact inItems
  | cons c tail =>
      have isLast : b ∈ c :: tail := by
        have last := congrArg List.getLast? split
        rw [List.getLast?_append_cons] at last
        exact List.mem_of_getLast? last.symm
      exact absurd (inMore.subset isLast) notMore

theorem before_of_map {Image : Type} {f : Item → Image} {image : Image}
    (once : (items.map f).Nodup) (before : [image, f b] <+ items.map f) (hasB : b ∈ items) :
    ∃ a, f a = image ∧ [a, b] <+ items := by
  obtain ⟨pair, inItems, isPair⟩ := List.sublist_map_iff.mp before
  obtain ⟨first, more, rfl, isFirst, isMore⟩ := List.map_eq_cons_iff.mp isPair.symm
  obtain ⟨second, none, rfl, isSecond, isNone⟩ := List.map_eq_cons_iff.mp isMore
  cases List.map_eq_nil_iff.mp isNone
  have hasSecond : second ∈ items := inItems.subset (by simp)
  have same := List.inj_on_of_nodup_map once hasSecond hasB isSecond
  subst same
  exact ⟨first, isFirst, inItems⟩

end Before

section Insert
variable {Item Key : Type} [LinearOrder Key] (key : Item → Key)

def enqueue (x : Item) : List Item → List Item
  | [] => [x]
  | head :: rest => if key head < key x then x :: head :: rest else head :: enqueue x rest

def Sorted (queue : List Item) : Prop := queue.Pairwise fun a b => key b ≤ key a

variable {key} {queue : List Item} {a x : Item}

theorem enqueue_perm : (enqueue key x queue).Perm (x :: queue) := by
  induction queue with
  | nil => rfl
  | cons head rest ih =>
      unfold enqueue
      split
      · rfl
      · exact (ih.cons head).trans (.swap ..)

theorem mem_enqueue : a ∈ enqueue key x queue ↔ a = x ∨ a ∈ queue := by
  rw [enqueue_perm.mem_iff, List.mem_cons]

theorem sublist_enqueue : queue <+ enqueue key x queue := by
  induction queue with
  | nil => exact List.nil_sublist _
  | cons head rest ih =>
      unfold enqueue
      split
      · exact List.sublist_cons_self x _
      · exact ih.cons_cons head

theorem enqueue_sorted (sorted : Sorted key queue) : Sorted key (enqueue key x queue) := by
  induction queue with
  | nil => exact List.pairwise_singleton _ _
  | cons head rest ih =>
      obtain ⟨first, later⟩ := List.pairwise_cons.mp sorted
      unfold enqueue
      split
      · rename_i lower
        refine List.pairwise_cons.mpr ⟨?_, sorted⟩
        intro b member
        rcases List.mem_cons.mp member with rfl | inRest
        · exact lower.le
        · exact (first b inRest).trans lower.le
      · rename_i notLower
        refine List.pairwise_cons.mpr ⟨?_, ih later⟩
        intro b member
        rcases mem_enqueue.mp member with rfl | inRest
        · exact not_lt.mp notLower
        · exact first b inRest

theorem enqueue_behind (sorted : Sorted key queue) (member : a ∈ queue)
    (atLeast : key x ≤ key a) : [a, x] <+ enqueue key x queue := by
  induction queue with
  | nil => contradiction
  | cons head rest ih =>
      obtain ⟨first, later⟩ := List.pairwise_cons.mp sorted
      have headAtLeast : key x ≤ key head := by
        rcases List.mem_cons.mp member with rfl | inRest
        · exact atLeast
        · exact atLeast.trans (first a inRest)
      rw [enqueue, if_neg (not_lt.mpr headAtLeast)]
      rcases List.mem_cons.mp member with rfl | inRest
      · exact (List.singleton_sublist.mpr (mem_enqueue.mpr (.inl rfl))).cons_cons a
      · exact (ih later inRest).cons head

end Insert

/-! ## Arrivals and departures -/

structure Log (Item : Type) where
  arrived : List Item
  departed : List Item
  waiting : List Item

section Log
variable {Item Key : Type} [LinearOrder Key] (key : Item → Key)

structure Orderly (l : Log Item) : Prop where
  sorted : Sorted key l.waiting
  perm : (l.departed ++ l.waiting).Perm l.arrived
  order : ∀ a b, [a, b] <+ l.arrived → key b ≤ key a → [a, b] <+ l.departed ++ l.waiting

variable {key} {l : Log Item} {a b : Item}

theorem Orderly.empty : Orderly key (⟨[], [], []⟩ : Log Item) where
  sorted := .nil
  perm := .nil
  order _ _ before _ := before

theorem Orderly.arrive (orderly : Orderly key l) (x : Item) :
    Orderly key { l with arrived := l.arrived ++ [x], waiting := enqueue key x l.waiting } where
  sorted := enqueue_sorted orderly.sorted
  perm := by
    have inserted : (l.departed ++ enqueue key x l.waiting).Perm (l.departed ++ x :: l.waiting) :=
      enqueue_perm.append_left l.departed
    have moved : (l.departed ++ x :: l.waiting).Perm (x :: (l.departed ++ l.waiting)) :=
      List.perm_middle
    have placed : (x :: l.arrived).Perm (l.arrived ++ [x]) := (List.perm_append_singleton x _).symm
    exact ((inserted.trans moved).trans (orderly.perm.cons x)).trans placed
  order a b before atLeast := by
    have kept : l.departed ++ l.waiting <+ l.departed ++ enqueue key x l.waiting :=
      sublist_enqueue.append_left l.departed
    obtain ⟨first, second, split, inArrived, inNew⟩ := List.sublist_append_iff.mp before
    rcases List.sublist_singleton.mp inNew with rfl | rfl
    · rw [List.append_nil] at split
      rw [← split] at inArrived
      exact (orderly.order a b inArrived atLeast).trans kept
    · -- `b` is the arrival, and `a` was there
      have apart : [a] ++ [b] = first ++ [x] := split
      obtain ⟨rfl, isX⟩ := List.append_inj' apart rfl
      cases isX
      have there := orderly.perm.mem_iff.mpr (List.singleton_sublist.mp inArrived)
      rcases List.mem_append.mp there with gone | waits
      · have arrival : [x] <+ enqueue key x l.waiting :=
          List.singleton_sublist.mpr (mem_enqueue.mpr (.inl rfl))
        exact List.Sublist.append (List.singleton_sublist.mpr gone) arrival
      · exact (enqueue_behind orderly.sorted waits atLeast).trans (List.sublist_append_right _ _)

theorem Orderly.depart {first rest : List Item} (orderly : Orderly key l)
    (front : l.waiting = first ++ rest) :
    Orderly key { l with departed := l.departed ++ first, waiting := rest } where
  sorted := by
    have sorted := orderly.sorted
    rw [front] at sorted
    exact (List.pairwise_append.mp sorted).2.1
  perm := by
    rw [List.append_assoc, ← front]
    exact orderly.perm
  order := by
    rw [List.append_assoc, ← front]
    exact orderly.order

/-- Nothing overtakes an earlier arrival of at least its priority. -/
theorem Orderly.departed_before (orderly : Orderly key l) (once : l.arrived.Nodup)
    (before : [a, b] <+ l.arrived) (atLeast : key b ≤ key a) (gone : b ∈ l.departed) :
    [a, b] <+ l.departed :=
  before_of_append (orderly.perm.nodup_iff.mpr once) (orderly.order a b before atLeast) gone

end Log

end PriorityQueue
