set_option autoImplicit false

/-! # Differences between snapshots

What has to be removed from and added to one collection to obtain another, by value. Duplicates
collapse, and both lists follow the order of first occurrence in their input. As sets the two parts
are differences (`mem_without`), each element once (`nodup_without`). -/

namespace MeshLink

/-- What has to be added to a collection and what removed from it, in order. -/
structure Diff (α : Type) where
  added : List α
  removed : List α
deriving DecidableEq

namespace Diff

variable {α : Type} [DecidableEq α]

/-- The list without later duplicates. -/
def distinct : List α → List α
  | [] => []
  | a :: as => a :: (distinct as).filter (· ≠ a)

@[simp] theorem mem_distinct {a : α} {xs : List α} : a ∈ distinct xs ↔ a ∈ xs := by
  induction xs with
  | nil => simp [distinct]
  | cons x xs ih =>
    by_cases h : a = x
    · simp [distinct, h]
    · simp [distinct, h, ih]

theorem nodup_distinct (xs : List α) : (distinct xs).Nodup := by
  induction xs with
  | nil => exact List.nodup_nil
  | cons x xs ih => exact List.nodup_cons.2 ⟨by simp, ih.filter _⟩

/-- The elements of the first list that are not in the second, each once. -/
def without (xs ys : List α) : List α :=
  (distinct xs).filter (· ∉ ys)

@[simp] theorem mem_without {a : α} {xs ys : List α} :
    a ∈ without xs ys ↔ a ∈ xs ∧ a ∉ ys := by
  simp [without]

theorem nodup_without (xs ys : List α) : (without xs ys).Nodup :=
  (nodup_distinct xs).filter _

/-- Nothing is left without a list exactly if the list holds everything. -/
theorem without_eq_nil {xs ys : List α} : without xs ys = [] ↔ ∀ a ∈ xs, a ∈ ys := by
  simp [List.eq_nil_iff_forall_not_mem]

/-- The difference that leads from the old list to the new one. -/
def between (old new : List α) : Diff α where
  added := without new old
  removed := without old new

/-- Whether there is nothing to do. -/
def isEmpty {β : Type} (d : Diff β) : Bool :=
  d.added.isEmpty && d.removed.isEmpty

end Diff
end MeshLink
