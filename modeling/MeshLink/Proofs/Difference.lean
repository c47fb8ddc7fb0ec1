import Mathlib.Data.Finset.Dedup
import Mathlib.Data.Finset.Erase
import Mathlib.Data.Finset.Insert
import Mathlib.Data.List.Nodup
import MeshLink.Diff
set_option autoImplicit false

/-! # Differences are exact

Both parts of a difference are the same kind of thing: what one list has and another has not, each
element once and in the order in which the elements first occur. Membership and that order leave no
choice (`Diff.Picks.unique`), so they say exactly what a difference is (`Diff.between_iff`).

A difference is there to be applied. Its elements are removed and added one by one, in any state of
the list they were computed from only the elements count, so the lists may have duplicates. -/

namespace MeshLink.Diff

variable {α : Type} [DecidableEq α] {xs ys zs : List α} {P : α → Prop}

/-! ## The order of first occurrence -/

/-- The second list has the elements of the first one that have a property, in the order of their
    first occurrences, which is strict. -/
structure Picks (xs : List α) (P : α → Prop) (ys : List α) : Prop where
  mem_iff : ∀ a, a ∈ ys ↔ a ∈ xs ∧ P a
  ordered : ys.Pairwise fun a b => xs.idxOf a < xs.idxOf b

namespace Picks

theorem nodup (h : Picks xs P ys) : ys.Nodup :=
  h.ordered.imp fun {a b} before (same : a = b) => absurd before (same ▸ Nat.lt_irrefl _)

/-- There is only one way to pick elements. -/
theorem unique (h : Picks xs P ys) (h' : Picks xs P zs) : ys = zs := by
  have perm : ys.Perm zs := by
    rw [List.perm_ext_iff_of_nodup h.nodup h'.nodup]
    exact fun a => (h.mem_iff a).trans (h'.mem_iff a).symm
  exact perm.eq_of_pairwise (fun _ _ _ _ first second => absurd first (Nat.lt_asymm second))
    h.ordered h'.ordered

end Picks

theorem ordered_distinct (xs : List α) :
    (distinct xs).Pairwise fun a b => xs.idxOf a < xs.idxOf b := by
  induction xs with
  | nil => exact .nil
  | cons x xs ih =>
      rw [distinct, List.pairwise_cons]
      constructor
      · intro b hb
        have other : b ≠ x := of_decide_eq_true (List.mem_filter.1 hb).2
        rw [List.idxOf_cons_self, List.idxOf_cons_ne xs other.symm]
        exact Nat.succ_pos _
      · -- Behind the head every place moves by one.
        refine (ih.filter _).imp_of_mem fun {a b} ha hb before => ?_
        have first : a ≠ x := of_decide_eq_true (List.mem_filter.1 ha).2
        have second : b ≠ x := of_decide_eq_true (List.mem_filter.1 hb).2
        rw [List.idxOf_cons_ne xs first.symm, List.idxOf_cons_ne xs second.symm]
        exact Nat.succ_lt_succ before

theorem picks_without (xs ys : List α) : Picks xs (· ∉ ys) (without xs ys) where
  mem_iff _ := mem_without
  ordered := (ordered_distinct xs).filter _

/-- A difference is what its two parts pick. -/
theorem between_iff {old new : List α} {d : Diff α} :
    d = between old new ↔ Picks old (· ∉ new) d.removed ∧ Picks new (· ∉ old) d.added := by
  constructor
  · rintro rfl
    exact ⟨picks_without old new, picks_without new old⟩
  · rintro ⟨removed, added⟩
    rw [between, ← removed.unique (picks_without old new), ← added.unique (picks_without new old)]

/-! ## Applying a difference -/

/-- Removes and then adds, one element after another. -/
def applyTo (d : Diff α) (s : Finset α) : Finset α :=
  d.added.foldl (fun s a => insert a s) (d.removed.foldl Finset.erase s)

theorem mem_foldl_erase {s : Finset α} {a : α} :
    a ∈ xs.foldl Finset.erase s ↔ a ∈ s ∧ a ∉ xs := by
  induction xs generalizing s with
  | nil => simp
  | cons x xs ih =>
      rw [List.foldl_cons, ih, Finset.mem_erase, List.mem_cons, not_or]
      tauto

theorem mem_foldl_insert {s : Finset α} {a : α} :
    a ∈ xs.foldl (fun s a => insert a s) s ↔ a ∈ s ∨ a ∈ xs := by
  induction xs generalizing s with
  | nil => simp
  | cons x xs ih =>
      rw [List.foldl_cons, ih, Finset.mem_insert, List.mem_cons]
      tauto

theorem mem_applyTo {d : Diff α} {s : Finset α} {a : α} :
    a ∈ d.applyTo s ↔ (a ∈ s ∧ a ∉ d.removed) ∨ a ∈ d.added := by
  rw [applyTo, mem_foldl_insert, mem_foldl_erase]

theorem applyTo_between (old new : List α) :
    (between old new).applyTo old.toFinset = new.toFinset := by
  ext a
  have removed : a ∈ (between old new).removed ↔ a ∈ old ∧ a ∉ new := mem_without
  have added : a ∈ (between old new).added ↔ a ∈ new ∧ a ∉ old := mem_without
  rw [mem_applyTo, removed, added, List.mem_toFinset, List.mem_toFinset]
  tauto

theorem isEmpty_between {old new : List α} :
    (between old new).isEmpty = true ↔ ∀ a, a ∈ old ↔ a ∈ new := by
  rw [isEmpty, Bool.and_eq_true, List.isEmpty_iff, List.isEmpty_iff]
  show without new old = [] ∧ without old new = [] ↔ _
  rw [without_eq_nil, without_eq_nil]
  exact ⟨fun ⟨added, removed⟩ a => ⟨removed a, added a⟩,
    fun same => ⟨fun a => (same a).2, fun a => (same a).1⟩⟩

/-- **A difference is exact.** It removes what only the old list has and adds what only the new one
    has, each once and in the order of first occurrence, and nothing else is a difference. What is
    removed is not added. Applied to the old elements it gives the new ones, the other way round it
    swaps its parts, and it is empty exactly between lists of the same elements. -/
theorem between_is_exact (old new : List α) :
    (∀ d : Diff α, d = between old new ↔
      Picks old (· ∉ new) d.removed ∧ Picks new (· ∉ old) d.added) ∧
    (between old new).removed.Nodup ∧ (between old new).added.Nodup ∧
    (between old new).removed.Disjoint (between old new).added ∧
    (between old new).applyTo old.toFinset = new.toFinset ∧
    (between old new).added = (between new old).removed ∧
    ((between old new).isEmpty = true ↔ ∀ a, a ∈ old ↔ a ∈ new) := by
  refine ⟨fun d => between_iff, (picks_without old new).nodup, (picks_without new old).nodup, ?_,
    applyTo_between old new, rfl, isEmpty_between⟩
  intro a removed added
  exact (mem_without.1 added).2 (mem_without.1 removed).1

example : between [4, 1, 4, 2] [3, 2, 5, 3] = ⟨[3, 5], [4, 1]⟩ := by decide

end MeshLink.Diff
