import Mathlib.Data.List.Forall2
set_option autoImplicit false

/-! # Runs side by side

A machine takes one input after another and answers each of them. What each of its inputs keeps
holds at every moment of a run (`of_mem_moments`).

Some of the inputs are left out, and a second machine is given the others. If what is left out does
not drive the states of the first machine away from those of the second, and both machines do the
same with an input that both are given, then the moments of the first run that are not left out pair
up with those of the second one (`moments_filter`). Where nothing is left out but inputs are
replaced by others that do the same, the runs are the same moment by moment (`moments_matches`). -/

namespace MeshLink

/-- An input that a machine takes, what the machine answers and its states around it. -/
structure Moment (S α β : Type) where
  before : S
  input : α
  answer : β
  after : S

variable {S T α β γ : Type}

/-- The moments of a run, one for each input. -/
def moments (step : S → α → β × S) (s : S) : List α → List (Moment S α β)
  | [] => []
  | a :: as => ⟨s, a, (step s a).1, (step s a).2⟩ :: moments step (step s a).2 as

/-- What every input keeps holds before each of them, and the moments are made by the machine. -/
theorem of_mem_moments {step : S → α → β × S} {Inv : S → Prop} {as : List α} {s : S}
    (start : Inv s) (keeps : ∀ a ∈ as, ∀ s, Inv s → Inv (step s a).2) {t : Moment S α β}
    (there : t ∈ moments step s as) :
    Inv t.before ∧ t.input ∈ as ∧ (t.answer, t.after) = step t.before t.input := by
  induction as generalizing s with
  | nil => cases there
  | cons a as ih =>
      obtain ⟨first, others⟩ := List.forall_mem_cons.1 keeps
      rcases List.mem_cons.1 there with rfl | later
      · exact ⟨start, List.mem_cons_self .., rfl⟩
      · obtain ⟨held, input, made⟩ := ih (first s start) others later
        exact ⟨held, List.mem_cons_of_mem a input, made⟩

theorem moments_filter {step : S → α → β × S} {step' : T → α → γ × T} {R : S → T → Prop}
    {Same : Moment S α β → Moment T α γ → Prop} {as : List α} {s : S} {t : T} (keep : α → Bool)
    (related : R s t)
    (left_out : ∀ a ∈ as, keep a = false → ∀ s t, R s t → R (step s a).2 t)
    (kept : ∀ a ∈ as, keep a = true → ∀ s t, R s t → R (step s a).2 (step' t a).2 ∧
      Same ⟨s, a, (step s a).1, (step s a).2⟩ ⟨t, a, (step' t a).1, (step' t a).2⟩) :
    List.Forall₂ Same ((moments step s as).filter (keep ·.input))
      (moments step' t (as.filter keep)) := by
  induction as generalizing s t with
  | nil => exact .nil
  | cons a as ih =>
      have left_out' := fun b hb => left_out b (List.mem_cons_of_mem a hb)
      have kept' := fun b hb => kept b (List.mem_cons_of_mem a hb)
      cases h : keep a with
      | false =>
          simp only [moments, List.filter_cons, h, Bool.false_eq_true, if_false]
          exact ih (left_out a (List.mem_cons_self ..) h s t related) left_out' kept'
      | true =>
          obtain ⟨after, same⟩ := kept a (List.mem_cons_self ..) h s t related
          simp only [moments, List.filter_cons, h, if_true]
          exact .cons same (ih after left_out' kept')

/-- Two moments between the same states, with the same answer to inputs that are alike. -/
structure Moment.Matches (Like : α → α → Prop) (m n : Moment S α β) : Prop where
  before : m.before = n.before
  input : Like m.input n.input
  answer : m.answer = n.answer
  after : m.after = n.after

/-- Inputs that make no difference at a step make no difference to a run. -/
theorem moments_matches (step : S → α → β × S) {Like : α → α → Prop}
    (alike : ∀ a b, Like a b → ∀ s, step s b = step s a) {as bs : List α}
    (likes : List.Forall₂ Like as bs) (s : S) :
    List.Forall₂ (Moment.Matches Like) (moments step s as) (moments step s bs) := by
  induction likes generalizing s with
  | nil => exact .nil
  | cons like _ ih =>
      have same := alike _ _ like s
      rw [moments, moments, same]
      exact .cons ⟨rfl, like, rfl, rfl⟩ (ih _)

end MeshLink
