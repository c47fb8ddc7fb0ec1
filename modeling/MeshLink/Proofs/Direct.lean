import MeshLink.Proofs.Teardown
import MeshLink.Service.Caller
set_option autoImplicit false

/-! # Commands as direct calls

What a command of the queue means: the operation of the controller that it stands for, made at once,
and what its caller is told. A question is no operation; it is answered from the mirror.

`Obeys` is a sequence of direct calls with the answers, between which the shared part may change.
The dispatcher carries a command out in the same way (`Service.handle_eq`), so that what it has done
is said by such a sequence. -/

namespace MeshLink

namespace Command

/-- The operation that a command stands for, unless it is a question. -/
def operation? : Command → Option Operation
  | .addresses snapshot => some (.addresses snapshot)
  | .prefixes snapshot => some (.prefixes snapshot)
  | .daemonDied => some .daemonDied
  | .setUp up => some (.setUp up)
  | .inventory => none
  | .destroy => some .destroy

/-- What the caller of an operation with this result is told, if the caller waits for that. -/
def reply : Command → ControllerResult → Option Answer
  | .setUp _, result => some (.switched result)
  | .destroy, _ => some .destroyed
  | _, _ => none

end Command

namespace Controller

variable {σ : Type} [Host σ]

/-- A command as a direct call, with what its caller is told. -/
def obey (c : Controller) (command : Command) : LinkM σ (Option Answer × Controller) := do
  match command.operation? with
  | none => return (some (.inventory c.inventory), c)
  | some op =>
    let (result, c) ← c.apply op
    return (command.reply result, c)

/-- Direct calls one after another, with the answers. -/
def obeyAll (c : Controller) (s : Shared σ) :
    List Command → List (Option Answer) × Controller × Shared σ
  | [] => ([], c, s)
  | command :: commands =>
    let done := c.obey command s
    let rest := obeyAll done.1.2 done.2 commands
    (done.1.1 :: rest.1, rest.2)

/-- What a controller comes to by direct calls, and what their callers are told. Between two of them
    the shared part may change as `between` says. -/
inductive Obeys (between : Shared σ → Shared σ → Prop) (c : Controller) (start : Shared σ) :
    List Command → List (Option Answer) → Controller → Shared σ → Prop
  | nil : Obeys between c start [] [] c start
  | obey {commands : List Command} {answers : List (Option Answer)} {c' : Controller}
      {s : Shared σ} (command : Command) :
      Obeys between c start commands answers c' s →
      Obeys between c start (commands ++ [command]) (answers ++ [(c'.obey command s).1.1])
        (c'.obey command s).1.2 (c'.obey command s).2
  | pass {commands : List Command} {answers : List (Option Answer)} {c' : Controller}
      {s s' : Shared σ} :
      Obeys between c start commands answers c' s → between s s' →
      Obeys between c start commands answers c' s'

variable {between : Shared σ → Shared σ → Prop} {c c' : Controller} {start s : Shared σ}
  {commands : List Command} {answers : List (Option Answer)}

theorem Obeys.length_eq (h : Obeys between c start commands answers c' s) :
    answers.length = commands.length := by
  induction h with
  | nil => rfl
  | obey command _ ih => rw [List.length_append, List.length_append, ih]; rfl
  | pass _ _ ih => exact ih

theorem Obeys.append {more : List Command} {told : List (Option Answer)} {c'' : Controller}
    {s' : Shared σ} (first : Obeys between c start commands answers c' s)
    (next : Obeys between c' s more told c'' s') :
    Obeys between c start (commands ++ more) (answers ++ told) c'' s' := by
  induction next with
  | nil => rw [List.append_nil, List.append_nil]; exact first
  | obey command _ ih =>
      rw [← List.append_assoc, ← List.append_assoc]
      exact ih.obey command
  | pass _ change ih => exact ih.pass change

/-- Each command is carried out after those before it and before those behind it. -/
theorem Obeys.at (h : Obeys between c start commands answers c' s) {k : Nat} {command : Command}
    (present : commands[k]? = some command) :
    ∃ cₖ sₖ, Obeys between c start (commands.take k) (answers.take k) cₖ sₖ ∧
      answers[k]? = some (cₖ.obey command sₖ).1.1 ∧
      Obeys between (cₖ.obey command sₖ).1.2 (cₖ.obey command sₖ).2
        (commands.drop (k + 1)) (answers.drop (k + 1)) c' s := by
  induction h with
  | nil => cases present
  | @obey commands answers c' s last before ih =>
      have length := before.length_eq
      have short : k < (commands ++ [last]).length := (List.getElem?_eq_some_iff.1 present).1
      rw [List.length_append, List.length_singleton] at short
      -- The command is one of the earlier ones or the last.
      rcases Nat.lt_succ_iff_lt_or_eq.1 short with inner | rfl
      · rw [List.getElem?_append_left inner] at present
        obtain ⟨cₖ, sₖ, earlier, told, later⟩ := ih present
        refine ⟨cₖ, sₖ, ?_, ?_, ?_⟩
        · rw [List.take_append_of_le_length inner.le,
            List.take_append_of_le_length (length ▸ inner.le)]
          exact earlier
        · rw [List.getElem?_append_left (length ▸ inner)]
          exact told
        · rw [List.drop_append_of_le_length inner, List.drop_append_of_le_length (length ▸ inner)]
          exact later.obey last
      · rw [List.getElem?_concat_length] at present
        cases present
        refine ⟨c', s, ?_, ?_, ?_⟩
        · rw [List.take_left, ← length, List.take_left]
          exact before
        · rw [← length, List.getElem?_concat_length]
        · have none : (commands ++ [command]).drop (commands.length + 1) = [] :=
            List.drop_eq_nil_of_le (by simp)
          have silent : (answers ++ [(c'.obey command s).1.1]).drop (commands.length + 1) = [] :=
            List.drop_eq_nil_of_le (by simp [length])
          rw [none, silent]
          exact .nil
  | pass _ change ih =>
      obtain ⟨cₖ, sₖ, earlier, told, later⟩ := ih present
      exact ⟨cₖ, sₖ, earlier, told, later.pass change⟩

theorem obey_operation {command : Command} {op : Operation} (h : command.operation? = some op)
    (c : Controller) (s : Shared σ) :
    c.obey command s =
      ((command.reply (c.apply op s).1.1, (c.apply op s).1.2), (c.apply op s).2) := by
  rw [obey, h]
  rfl

theorem obey_question {command : Command} (h : command.operation? = none) (c : Controller)
    (s : Shared σ) : c.obey command s = ((some (.inventory c.inventory), c), s) := by
  rw [obey, h]
  rfl

/-- The resources stay but for a start and an end. -/
theorem Transition.resources_eq {op : Operation} {result : ControllerResult} {s' : Shared σ}
    (t : c.Transition s op result c' s') (started : ∀ device, op ≠ .start device)
    (alive : op ≠ .destroy) : c'.resources = c.resources := by
  induction t with
  | started => exact absurd rfl (started _)
  | reconciled => rw [resources_reconciled]
  | prefixes => rw [resources_updatePrefixes]
  | died _ ih => exact ih nofun nofun
  | destroyedUnused => exact absurd rfl alive
  | destroyed => exact absurd rfl alive
  | _ => rfl

/-- Commands do not start, so that the resources stay until an end. -/
theorem Obeys.resources_eq (staged : c.IsStaged)
    (h : Obeys between c start commands answers c' s) (alive : .destroy ∉ commands) :
    c'.IsStaged ∧ c'.resources = c.resources := by
  induction h with
  | nil => exact ⟨staged, rfl⟩
  | @obey commands _ c' s command _ ih =>
      obtain ⟨staged', same⟩ := ih fun found => alive (List.mem_append_left _ found)
      have other : command ≠ .destroy := fun last =>
        alive (last ▸ List.mem_append_right _ List.mem_cons_self)
      cases op : command.operation? with
      | none =>
          rw [obey_question op]
          exact ⟨staged', same⟩
      | some op' =>
          rw [obey_operation op]
          have t := apply_transition staged' op' s
          refine ⟨t.isStaged staged', (t.resources_eq ?_ ?_).trans same⟩
          · rintro device rfl
            cases command <;> cases op
          · rintro rfl
            cases command <;> first | exact other rfl | cases op
  | pass _ _ ih => exact ih alive

theorem Obeys.eq_of_nil (h : Obeys between c start [] answers c' s) : c' = c ∧ answers = [] := by
  generalize none : ([] : List Command) = commands at h
  induction h with
  | nil => exact ⟨rfl, rfl⟩
  | obey => exact absurd none (List.append_ne_nil_of_right_ne_nil _ (List.cons_ne_nil _ _)).symm
  | pass _ _ ih => exact ih none

theorem state_destroy (c : Controller) (s : Shared σ) : (c.destroy s).1.state = .destroyed :=
  (destroy_transition s).state_eq

/-- Direct calls end with the last of them. -/
theorem Obeys.last {last : Command}
    (h : Obeys between c start (commands ++ [last]) answers c' s) :
    ∃ before c₁ s₁, Obeys between c start commands before c₁ s₁ ∧
      answers = before ++ [(c₁.obey last s₁).1.1] ∧
      Obeys between (c₁.obey last s₁).1.2 (c₁.obey last s₁).2 [] [] c' s := by
  obtain ⟨c₁, s₁, earlier, told, later⟩ := h.at List.getElem?_concat_length
  have length := h.length_eq
  rw [List.length_append, List.length_singleton] at length
  have none : (commands ++ [last]).drop (commands.length + 1) = [] :=
    List.drop_eq_nil_of_le (by simp)
  have split : answers = answers.take commands.length ++ [(c₁.obey last s₁).1.1] := by
    have here := List.take_add_one (l := answers) (i := commands.length)
    rwa [told, ← length, List.take_length] at here
  rw [none, List.drop_eq_nil_of_le length.le] at later
  rw [List.take_left] at earlier
  exact ⟨_, c₁, s₁, earlier, split, later⟩

theorem Obeys.destroyed (h : Obeys between c start (commands ++ [.destroy]) answers c' s) :
    ∃ before c₁ s₁, Obeys between c start commands before c₁ s₁ ∧
      answers = before ++ [some .destroyed] ∧ c' = (c₁.destroy s₁).1 ∧
      Obeys between (c₁.destroy s₁).1 (c₁.destroy s₁).2 [] [] c' s := by
  obtain ⟨before, c₁, s₁, first, told, later⟩ := h.last
  exact ⟨before, c₁, s₁, first, told, later.eq_of_nil.1, later⟩

/-- A second end changes nothing. -/
theorem Obeys.destroy_once
    (h : Obeys between c start (commands ++ [.destroy] ++ [.destroy]) answers c' s) :
    ∃ before, answers = before ++ [some .destroyed] ∧
      Obeys between c start (commands ++ [.destroy]) before c' s := by
  obtain ⟨before, c₂, s₂, first, told, -, later⟩ := h.destroyed
  obtain ⟨-, c₁, s₁, -, -, ended, -⟩ := first.destroyed
  have destroyed : c₂.state = .destroyed := by
    rw [ended]
    exact state_destroy c₁ s₁
  rw [destroy_eq_self destroyed] at later
  refine ⟨before, told, ?_⟩
  have both := first.append later
  rwa [List.append_nil, List.append_nil] at both

/-- Where nothing happens in between, the calls follow one another at once. -/
theorem Obeys.eq_obeyAll (still : ∀ s s', ¬ between s s')
    (h : Obeys between c start commands answers c' s) :
    c.obeyAll start commands = (answers, c', s) := by
  have snoc : ∀ (commands : List Command) (last : Command) (c : Controller) (start : Shared σ),
      c.obeyAll start (commands ++ [last]) =
        let before := c.obeyAll start commands
        let after := before.2.1.obey last before.2.2
        (before.1 ++ [after.1.1], after.1.2, after.2) := by
    intro commands last
    induction commands with
    | nil => intro c start; rfl
    | cons command commands ih =>
        intro c start
        simp only [List.cons_append, obeyAll, ih]
  induction h with
  | nil => rfl
  | obey command _ ih => rw [snoc, ih]
  | pass _ change => exact absurd change (still _ _)

end Controller

namespace Service

variable {σ : Type} [Host σ]

/-- Gives an answer, if there is one. -/
def note (s : Service) (ticket : Ticket) : Option Answer → Service
  | none => s
  | some a => s.answer ticket a

/-- A command is carried out as a direct call whose answer is given under its ticket. -/
def carryOut (s : Service) (ticket : Ticket) (command : Command) : LinkM σ Service := do
  let (told, c) ← s.controller.obey command
  return { s with controller := c }.note ticket told

/-- This is how the dispatcher handles commands; the end closes the queue. -/
theorem handle_eq (s : Service) (ticket : Ticket) (command : Command) (shared : Shared σ) :
    s.handle ticket command shared =
      (if command = .destroy then (s.carryOut ticket command shared).1.close
        else (s.carryOut ticket command shared).1, (s.carryOut ticket command shared).2) := by
  cases command <;> rfl

end Service
end MeshLink
