import MeshLink.Proofs.Desk
set_option autoImplicit false

/-! # One order for all commands

Whatever the handles and the dispatcher do in whatever order, there is one order in which the
commands take effect, that in which they were posted, and they take effect as direct calls do.

`Stands` says how far the dispatcher is along that order and what it has told so far. Each move
keeps it: to post adds a command at the end, to take one changes nothing, to carry one out is the
next direct call, and to leave is one more end. -/

namespace MeshLink

/-! ## Where the dispatcher stands -/

open Controller

/-- The first `n` commands have been carried out as direct calls with these answers. The others
    wait until the dispatcher returns, and are dropped then. -/
structure Stands {σ : Type} [Host σ] (between : Shared σ → Shared σ → Prop) (c : Controller)
    (start : Shared σ) (posted : List Command) (n : Nat) (answers : List (Option Answer))
    (d : Desk) (s : Shared σ) : Prop where
  bound : n ≤ posted.length
  length : answers.length = n
  next : d.service.nextTicket = posted.length
  running : d.service.running = true ↔ d.phase ≠ .returned
  pending : d.pending = if d.phase = .returned then [] else ticketed n (posted.drop n)
  direct : d.phase ≠ .returned →
    Obeys between c start (posted.take n) answers d.service.controller s
  /-- On its way out the dispatcher ends the controller, once more if that was a command. -/
  ended : d.phase = .returned →
    Obeys between c start (posted.take n ++ [.destroy]) (answers ++ [some .destroyed])
      d.service.controller s
  serving : d.phase.isServing = true → .destroy ∉ posted.take n
  /-- It goes behind the first command to end, or when all handles are gone and nothing waits. -/
  gone : d.phase.isServing = false →
    posted.take n = upToDestroy posted ∧ (.destroy ∈ posted ∨ d.handles = 0)
  answered : ∀ k < n, d.service.answer? k = answers[k]?.join
  unanswered : ∀ k, n ≤ k → d.service.answer? k =
    if d.phase = .returned then (posted[k]?.filter Command.isAwaited).map fun _ => .closed else none

namespace Stands

variable {σ : Type} [Host σ] {between : Shared σ → Shared σ → Prop} {c : Controller}
  {start s s' : Shared σ} {posted : List Command} {n : Nat} {answers : List (Option Answer)}
  {d d' : Desk}

theorem new (c : Controller) (start : Shared σ) :
    Stands between c start [] 0 [] (.of c) start where
  bound := Nat.le_refl 0
  length := rfl
  next := rfl
  running := by simp [Desk.of, Service.new]
  pending := rfl
  direct _ := .nil
  ended returned := by cases returned
  serving _ := List.not_mem_nil
  gone out := by cases out
  answered k small := absurd small (Nat.not_lt_zero k)
  unanswered k _ := rfl

theorem post (h : Stands between c start posted n answers d s) (held : 0 < d.handles)
    {command : Command} {ticket : Ticket} {service : Service}
    (accepted : d.service.post command = (.accepted ticket, service)) :
    Stands between c start (posted ++ [command]) n answers { d with service := service } s := by
  obtain ⟨running, -, rfl⟩ := Service.eq_of_post accepted
  have inside : d.phase ≠ .returned := h.running.1 running
  have taken : (posted ++ [command]).take n = posted.take n :=
    List.take_append_of_le_length h.bound
  refine ⟨?_, h.length, ?_, h.running, ?_, ?_, ?_, ?_, ?_, h.answered, ?_⟩
  · exact h.bound.trans (by simp)
  · simp [h.next]
  · -- The ticket is the number of the commands posted before.
    have added : ticketed n ((posted ++ [command]).drop n) =
        ticketed n (posted.drop n) ++ [(posted.length, command)] := by
      rw [List.drop_append_of_le_length h.bound, ticketed_append, List.length_drop,
        Nat.add_sub_cancel' h.bound]
    have before := h.pending
    rw [if_neg inside] at before ⊢
    rw [added, ← before, h.next]
    cases phase : d.phase <;> simp [Desk.pending, phase]
  · intro _
    rw [taken]
    exact h.direct inside
  · exact fun returned => absurd returned inside
  · rw [taken]
    exact h.serving
  · intro out
    obtain ⟨upTo, ended | none⟩ := h.gone out
    · rw [taken, upToDestroy_append_of_mem ended]
      exact ⟨upTo, .inl (List.mem_append_left _ ended)⟩
    · exact absurd none held.ne'
  · intro k large
    rw [if_neg inside]
    exact (h.unanswered k large).trans (if_neg inside)

theorem take (h : Stands between c start posted n answers d s) (waiting : d.phase = .waiting)
    {ticket : Ticket} {command : Command} {queue : List (Ticket × Command)}
    (first : d.service.queue = (ticket, command) :: queue) :
    Stands between c start posted n answers
      { d with service := { d.service with queue := queue }, phase := .holding ticket command }
      s := by
  have inside : d.phase ≠ .returned := by simp [waiting]
  have serving : d.phase.isServing = true := by rw [waiting]; rfl
  have before := h.pending
  rw [if_neg inside] at before
  refine ⟨h.bound, h.length, h.next, ?_, ?_, fun _ => h.direct inside, by simp,
    fun _ => h.serving serving, (fun out => by cases out), h.answered, ?_⟩
  · simp [h.running.2 inside]
  · rw [if_neg (by simp), ← before]
    simp [Desk.pending, waiting, first]
  · intro k large
    exact (h.unanswered k large).trans (if_neg inside)

/-- The command in hand is the first that is not carried out, and the others wait in their order. -/
theorem drop_eq_of_holding (h : Stands between c start posted n answers d s) {ticket : Ticket}
    {command : Command} (holding : d.phase = .holding ticket command) :
    ticket = n ∧ ∃ rest, posted.drop n = command :: rest ∧
      d.service.queue = ticketed (n + 1) rest := by
  have inside : d.phase ≠ .returned := by simp [holding]
  have before := h.pending
  rw [if_neg inside, Desk.pending, holding] at before
  obtain ⟨rest, drop⟩ : ∃ rest, posted.drop n = command :: rest := by
    have commands := congrArg (List.map Prod.snd) before
    rw [map_snd_ticketed] at commands
    exact ⟨_, commands.symm⟩
  rw [drop] at before
  obtain ⟨same, queue⟩ := List.cons.inj before
  exact ⟨congrArg Prod.fst same, rest, drop, queue⟩

theorem carryOut (h : Stands between c start posted n answers d s) {ticket : Ticket}
    {command : Command} (holding : d.phase = .holding ticket command) :
    ∃ answers, Stands between c start posted (n + 1) answers
      { d with
        service := (d.service.carryOut ticket command s).1
        phase := if command = .destroy then .leaving else .waiting }
      (d.service.carryOut ticket command s).2 := by
  have inside : d.phase ≠ .returned := by simp [holding]
  have early : .destroy ∉ posted.take n := h.serving (by rw [holding]; rfl)
  obtain ⟨rfl, rest, drop, queue⟩ := h.drop_eq_of_holding holding
  have split : posted = posted.take ticket ++ command :: rest := by
    rw [← drop, List.take_append_drop]
  have here : posted[ticket]? = some command := by
    have head := congrArg List.head? drop
    rwa [List.head?_drop] at head
  have taken : posted.take (ticket + 1) = posted.take ticket ++ [command] := by
    rw [List.take_add_one, here]
    rfl
  have phase : (if command = .destroy then Phase.leaving else .waiting) ≠ .returned := by
    split <;> simp
  have run : d.service.carryOut ticket command s =
      ({ d.service with controller := (d.service.controller.obey command s).1.2 }.note ticket
        (d.service.controller.obey command s).1.1, (d.service.controller.obey command s).2) := rfl
  refine ⟨answers ++ [(d.service.controller.obey command s).1.1], ?_⟩
  rw [run, Service.note_eq]
  exact {
    bound := (List.getElem?_eq_some_iff.1 here).1
    length := by rw [List.length_append, h.length]; rfl
    next := h.next
    running := iff_of_true (h.running.2 inside) phase
    pending := by
      have rest' : posted.drop (ticket + 1) = rest := by rw [← List.drop_drop, drop]; rfl
      rw [if_neg phase, rest', ← queue]
      by_cases last : command = .destroy
      · simp [Desk.pending, last]
      · simp [Desk.pending, last]
    direct := by
      intro _
      rw [taken]
      exact (h.direct inside).obey command
    ended := fun returned => absurd returned phase
    serving := by
      intro serving
      have other : command ≠ .destroy := by
        rintro rfl
        cases serving
      rw [taken, List.mem_append, List.mem_singleton]
      exact fun found => found.elim early fun same => other same.symm
    gone := by
      intro out
      have last : command = .destroy := by
        by_contra other
        rw [if_neg other] at out
        cases out
      have upTo : upToDestroy posted = posted.take ticket ++ [.destroy] := by
        rw [split, last, upToDestroy_append_destroy early, ← last, ← split]
      rw [taken, upTo, last]
      exact ⟨rfl, .inl (last ▸ List.mem_of_getElem? here)⟩
    answered := by
      intro k small
      show ({ d.service with controller := _ }.note ticket _).answer? k = _
      rw [Service.answer?_note]
      rcases Nat.lt_succ_iff_lt_or_eq.1 small with old | rfl
      · rw [if_neg old.ne, List.getElem?_append_left (h.length ▸ old)]
        exact h.answered k old
      · have silent : d.service.answer? k = none := (h.unanswered k (Nat.le_refl k)).trans
          (if_neg inside)
        have told : (answers ++ [(d.service.controller.obey command s).1.1])[k]? =
            some (d.service.controller.obey command s).1.1 := by
          rw [← h.length, List.getElem?_concat_length]
        rw [if_pos rfl, told]
        show _ = (d.service.controller.obey command s).1.1
        exact (congrArg (Option.or _) silent).trans Option.or_none
    unanswered := by
      intro k large
      show ({ d.service with controller := _ }.note ticket _).answer? k = _
      rw [Service.answer?_note, if_neg (Nat.ne_of_gt large), if_neg phase]
      exact (h.unanswered k (Nat.le_of_succ_le large)).trans (if_neg inside) }

/-- Where nothing waits, everything has been carried out, and no end was among it. -/
theorem of_empty (h : Stands between c start posted n answers d s) (waiting : d.phase = .waiting)
    (empty : d.service.queue = []) : posted.take n = posted ∧ .destroy ∉ posted := by
  have inside : d.phase ≠ .returned := by simp [waiting]
  have early : .destroy ∉ posted.take n := h.serving (by rw [waiting]; rfl)
  have none := congrArg (List.map Prod.snd) h.pending
  rw [if_neg inside, map_snd_ticketed, Desk.pending, waiting] at none
  have all : posted.take n = posted := by
    rw [← List.append_nil (posted.take n),
      show [] = posted.drop n from (congrArg _ empty).symm.trans none, List.take_append_drop]
  exact ⟨all, all ▸ early⟩

theorem hangUp (h : Stands between c start posted n answers d s) (waiting : d.phase = .waiting)
    (empty : d.service.queue = []) (alone : d.handles = 0) :
    Stands between c start posted n answers { d with phase := .leaving } s := by
  have inside : d.phase ≠ .returned := by simp [waiting]
  obtain ⟨all, early⟩ := h.of_empty waiting empty
  have before := h.pending
  rw [if_neg inside, Desk.pending, waiting] at before
  refine ⟨h.bound, h.length, h.next, ?_, ?_, fun _ => h.direct inside, by simp,
    (fun serving => by cases serving), ?_, h.answered, ?_⟩
  · simp [h.running.2 inside]
  · rw [if_neg (by simp), ← before]
    rfl
  · intro _
    rw [all, upToDestroy_of_notMem early]
    exact ⟨rfl, .inr alone⟩
  · intro k large
    exact (h.unanswered k large).trans (if_neg inside)

theorem leave (h : Stands between c start posted n answers d s) (leaving : d.phase = .leaving) :
    Stands between c start posted n answers
      { d with
        service := { d.service with controller := (d.service.controller.destroy s).1 }.close
        phase := .returned }
      (d.service.controller.destroy s).2 := by
  have inside : d.phase ≠ .returned := by simp [leaving]
  have waiting : d.service.queue = ticketed n (posted.drop n) := by
    have before := h.pending
    rwa [if_neg inside, Desk.pending, leaving] at before
  have closed := Service.answer?_close
    (s := { d.service with controller := (d.service.controller.destroy s).1 }) waiting
  refine ⟨h.bound, h.length, h.next, ?_, rfl, fun out => absurd rfl out, ?_,
    (fun serving => by cases serving), ?_, ?_, ?_⟩
  · simp [Service.close]
  · exact fun _ => (h.direct inside).obey .destroy
  · exact fun _ => h.gone (by rw [leaving]; rfl)
  · intro k small
    rw [closed, if_neg (Nat.not_le_of_lt small)]
    exact h.answered k small
  · intro k large
    rw [closed, if_pos large, if_pos rfl, List.getElem?_drop, Nat.add_sub_cancel' large]
    exact (congrArg (Option.or _) ((h.unanswered k large).trans (if_neg inside))).trans
      Option.or_none

/-- Every move of the dispatcher goes on with the direct calls. -/
theorem serve (h : Stands between c start posted n answers d s) (serves : d.Serves s d' s') :
    ∃ n answers, Stands between c start posted n answers d' s' := by
  cases serves with
  | take waiting first => exact ⟨n, answers, h.take waiting first⟩
  | carryOut holding =>
      obtain ⟨answers', next⟩ := h.carryOut holding
      exact ⟨n + 1, answers', next⟩
  | hangUp waiting empty alone => exact ⟨n, answers, h.hangUp waiting empty alone⟩
  | leave leaving => exact ⟨n, answers, h.leave leaving⟩
  | stay => exact ⟨n, answers, h⟩

theorem changeHandles (h : Stands between c start posted n answers d s) (held : 0 < d.handles)
    (handles : Nat) : Stands between c start posted n answers { d with handles := handles } s :=
  { h with
    gone := by
      intro out
      obtain ⟨upTo, ended | none⟩ := h.gone out
      · exact ⟨upTo, .inl ended⟩
      · exact absurd none held.ne' }

theorem pass (h : Stands between c start posted n answers d s) (change : between s s') :
    Stands between c start posted n answers d s' :=
  { h with
    direct := fun inside => (h.direct inside).pass change
    ended := fun returned => (h.ended returned).pass change }

/-- What is told under the ticket of a command is what a direct call behind the earlier ones
    tells, and the later ones are carried out from there. -/
theorem reply (h : Stands between c start posted n answers d s) {k : Nat} {command : Command}
    (done : k < n) (present : posted[k]? = some command) :
    ∃ cₖ sₖ, Obeys between c start (posted.take k) (answers.take k) cₖ sₖ ∧
      d.service.answer? k = (cₖ.obey command sₖ).1.1 := by
  have taken : (posted.take n)[k]? = some command := by
    rw [List.getElem?_take_of_lt done]
    exact present
  have told := h.answered k done
  by_cases returned : d.phase = .returned
  · have within : k < (posted.take n).length := (List.getElem?_eq_some_iff.1 taken).1
    obtain ⟨cₖ, sₖ, earlier, here, -⟩ := (h.ended returned).at
      ((List.getElem?_append_left within).trans taken)
    rw [List.take_append_of_le_length within.le, List.take_take, Nat.min_eq_left done.le,
      List.take_append_of_le_length (h.length ▸ done.le)] at earlier
    rw [List.getElem?_append_left (h.length ▸ done)] at here
    refine ⟨cₖ, sₖ, earlier, ?_⟩
    rw [told, here]
    rfl
  · obtain ⟨cₖ, sₖ, earlier, here, -⟩ := (h.direct returned).at taken
    rw [List.take_take, Nat.min_eq_left done.le] at earlier
    refine ⟨cₖ, sₖ, earlier, ?_⟩
    rw [told, here]
    rfl

/-- When the dispatcher has returned, the commands up to the first end have been carried out, and
    then one more end. -/
theorem finished (h : Stands between c start posted n answers d s)
    (returned : d.phase = .returned) :
    Obeys between c start (upToDestroy posted ++ [.destroy]) (answers ++ [some .destroyed])
      d.service.controller s := by
  rw [← (h.gone (by rw [returned]; rfl)).1]
  exact h.ended returned

theorem stopped (h : Stands between c start posted n answers d s)
    (returned : d.phase = .returned) : d.service.Stopped := by
  refine Service.stopped ?_ ?_
  · rw [← Bool.not_eq_true]
    exact fun running => h.running.1 running returned
  · have none := h.pending
    rwa [if_pos returned, Desk.pending, returned] at none

end Stands

theorem Works.stands {σ : Type} [Host σ] {between : Shared σ → Shared σ → Prop} {c : Controller}
    {start s : Shared σ} {posted : List Command} {d : Desk}
    (works : Works between c start posted d s) :
    ∃ n answers, Stands between c start posted n answers d s := by
  induction works with
  | new => exact ⟨0, [], .new c start⟩
  | clone _ held ih =>
      obtain ⟨n, answers, h⟩ := ih
      exact ⟨n, answers, h.changeHandles held _⟩
  | drop _ held ih =>
      obtain ⟨n, answers, h⟩ := ih
      exact ⟨n, answers, h.changeHandles held _⟩
  | post _ held accepted ih =>
      obtain ⟨n, answers, h⟩ := ih
      exact ⟨n, answers, h.post held accepted⟩
  | serve _ ih =>
      obtain ⟨n, answers, h⟩ := ih
      exact h.serve (Desk.serve_serves _ _)
  | pass _ change ih =>
      obtain ⟨n, answers, h⟩ := ih
      exact ⟨n, answers, h.pass change⟩

/-! ## Every order of moves -/

variable {σ : Type} [Host σ] {between : Shared σ → Shared σ → Prop} {c : Controller}
  {start s : Shared σ} {posted : List Command} {d : Desk}

end MeshLink
