import MeshLink.Proofs.Direct
set_option autoImplicit false

/-! # The dispatcher and its callers

The queue between any number of handles and one dispatcher, in every order in which they can act.
Handles are cloned and dropped and post commands; the dispatcher takes a command, carries it out,
and leaves once it has been told to end or once all handles are gone and nothing waits. It then ends
the controller, whether or not that was a command, and drops what still waits. A handle that finds
no room tries again.

`Desk.serve` is the next move of the dispatcher alone; `Works` adds the moves of the others and
changes of what is shared. Whatever the order (`Works.linearizes`), the commands take effect in the
order in which they were posted, as direct calls do. -/

namespace MeshLink

/-- Where the dispatcher is. -/
inductive Phase
  | waiting
  /-- It has taken a command and not carried it out yet. -/
  | holding (ticket : Ticket) (command : Command)
  /-- It takes no more commands. -/
  | leaving
  | returned
deriving DecidableEq

/-- Whether the dispatcher may still take commands. -/
def Phase.isServing : Phase → Bool
  | .waiting | .holding .. => true
  | .leaving | .returned => false

/-- A service with its dispatcher and its handles. -/
structure Desk where
  service : Service
  phase : Phase
  /-- How many handles there are. -/
  handles : Nat

namespace Desk

/-- A dispatcher and one handle. -/
def of (c : Controller) : Desk :=
  ⟨.new c, .waiting, 1⟩

variable {σ : Type} [Host σ]

/-- The next move of the dispatcher; it stays where it has to wait or has returned. -/
def serve (d : Desk) : LinkM σ Desk :=
  match d.phase with
  | .waiting =>
    match d.service.queue with
    | (ticket, command) :: queue =>
      return { d with
        service := { d.service with queue := queue }
        phase := .holding ticket command }
    | [] => return if d.handles = 0 then { d with phase := .leaving } else d
  | .holding ticket command => do
    let service ← d.service.carryOut ticket command
    return { d with
      service := service
      phase := if command = .destroy then .leaving else .waiting }
  | .leaving => do
    let c ← d.service.controller.destroy
    return { d with service := { d.service with controller := c }.close, phase := .returned }
  | .returned => return d

/-- Moves of the dispatcher while nobody else acts. -/
def serveMany : Nat → Desk → LinkM σ Desk
  | 0, d => return d
  | n + 1, d => do serveMany n (← d.serve)

/-- The commands that are not carried out yet, the one in hand first. -/
def pending (d : Desk) : List (Ticket × Command) :=
  match d.phase with
  | .holding ticket command => (ticket, command) :: d.service.queue
  | _ => d.service.queue

/-- The dispatcher has to wait, or has returned. -/
def isIdle (d : Desk) : Bool :=
  match d.phase with
  | .waiting => d.service.queue.isEmpty && d.handles != 0
  | .returned => true
  | _ => false

theorem eq_of_isIdle {d : Desk} (idle : d.isIdle = true) :
    (d.phase = .waiting ∧ d.service.queue = [] ∧ d.handles ≠ 0) ∨ d.phase = .returned := by
  cases phase : d.phase with
  | waiting => exact .inl ⟨rfl, by simpa [isIdle, phase] using idle⟩
  | returned => exact .inr rfl
  | holding => simp [isIdle, phase] at idle
  | leaving => simp [isIdle, phase] at idle

/-- What a move of the dispatcher can be. -/
inductive Serves (d : Desk) (s : Shared σ) : Desk → Shared σ → Prop
  | take {ticket : Ticket} {command : Command} {queue : List (Ticket × Command)} :
      d.phase = .waiting → d.service.queue = (ticket, command) :: queue →
      Serves d s
        { d with service := { d.service with queue := queue }, phase := .holding ticket command } s
  | carryOut {ticket : Ticket} {command : Command} :
      d.phase = .holding ticket command →
      Serves d s
        { d with
          service := (d.service.carryOut ticket command s).1
          phase := if command = .destroy then .leaving else .waiting }
        (d.service.carryOut ticket command s).2
  /-- Nobody can post any more. -/
  | hangUp :
      d.phase = .waiting → d.service.queue = [] → d.handles = 0 →
      Serves d s { d with phase := .leaving } s
  | leave :
      d.phase = .leaving →
      Serves d s
        { d with
          service := { d.service with controller := (d.service.controller.destroy s).1 }.close
          phase := .returned }
        (d.service.controller.destroy s).2
  | stay : d.isIdle = true → Serves d s d s

theorem serve_of_empty {d : Desk} (waiting : d.phase = .waiting) (empty : d.service.queue = [])
    (s : Shared σ) :
    d.serve s = (if d.handles = 0 then { d with phase := .leaving } else d, s) := by
  simp only [serve, waiting, empty, LinkM.pure_run]

theorem serve_of_cons {d : Desk} {ticket : Ticket} {command : Command}
    {queue : List (Ticket × Command)} (waiting : d.phase = .waiting)
    (first : d.service.queue = (ticket, command) :: queue) (s : Shared σ) :
    d.serve s = ({ d with
      service := { d.service with queue := queue }, phase := .holding ticket command }, s) := by
  simp only [serve, waiting, first, LinkM.pure_run]

theorem serve_of_holding {d : Desk} {ticket : Ticket} {command : Command}
    (holding : d.phase = .holding ticket command) (s : Shared σ) :
    d.serve s = ({ d with
      service := (d.service.carryOut ticket command s).1
      phase := if command = .destroy then .leaving else .waiting },
      (d.service.carryOut ticket command s).2) := by
  simp only [serve, holding, LinkM.bind_run, LinkM.pure_run]

theorem serve_of_leaving {d : Desk} (leaving : d.phase = .leaving) (s : Shared σ) :
    d.serve s = ({ d with
      service := { d.service with controller := (d.service.controller.destroy s).1 }.close
      phase := .returned }, (d.service.controller.destroy s).2) := by
  simp only [serve, leaving, LinkM.bind_run, LinkM.pure_run]

theorem serve_of_returned {d : Desk} (returned : d.phase = .returned) (s : Shared σ) :
    d.serve s = (d, s) := by
  simp only [serve, returned, LinkM.pure_run]

theorem serve_serves (d : Desk) (s : Shared σ) : d.Serves s (d.serve s).1 (d.serve s).2 := by
  cases phase : d.phase with
  | waiting =>
      cases queue : d.service.queue with
      | nil =>
          rw [serve_of_empty phase queue]
          by_cases alone : d.handles = 0
          · rw [if_pos alone]
            exact .hangUp phase queue alone
          · rw [if_neg alone]
            exact .stay (by simp [isIdle, phase, queue, alone])
      | cons first rest =>
          rw [serve_of_cons phase queue]
          exact .take phase queue
  | holding ticket command =>
      rw [serve_of_holding phase]
      exact .carryOut phase
  | leaving =>
      rw [serve_of_leaving phase]
      exact .leave phase
  | returned =>
      rw [serve_of_returned phase]
      exact .stay (by simp [isIdle, phase])

end Desk

/-- What a dispatcher and its handles come to, with the commands posted so far. Between any two
    moves the shared part may change as `between` says. -/
inductive Works {σ : Type} [Host σ] (between : Shared σ → Shared σ → Prop) (c : Controller)
    (start : Shared σ) : List Command → Desk → Shared σ → Prop
  | new : Works between c start [] (.of c) start
  | clone {posted : List Command} {d : Desk} {s : Shared σ} :
      Works between c start posted d s → 0 < d.handles →
      Works between c start posted { d with handles := d.handles + 1 } s
  | drop {posted : List Command} {d : Desk} {s : Shared σ} :
      Works between c start posted d s → 0 < d.handles →
      Works between c start posted { d with handles := d.handles - 1 } s
  | post {posted : List Command} {d : Desk} {s : Shared σ} {command : Command} {ticket : Ticket}
      {service : Service} :
      Works between c start posted d s → 0 < d.handles →
      d.service.post command = (.accepted ticket, service) →
      Works between c start (posted ++ [command]) { d with service := service } s
  | serve {posted : List Command} {d : Desk} {s : Shared σ} :
      Works between c start posted d s → Works between c start posted (d.serve s).1 (d.serve s).2
  | pass {posted : List Command} {d : Desk} {s s' : Shared σ} :
      Works between c start posted d s → between s s' → Works between c start posted d s'

/-! ## Tickets -/

/-- Commands with consecutive tickets. -/
def ticketed : Nat → List Command → List (Ticket × Command)
  | _, [] => []
  | ticket, command :: commands => (ticket, command) :: ticketed (ticket + 1) commands

theorem ticketed_append (ticket : Nat) (commands : List Command) (last : Command) :
    ticketed ticket (commands ++ [last]) =
      ticketed ticket commands ++ [(ticket + commands.length, last)] := by
  induction commands generalizing ticket with
  | nil => rfl
  | cons command commands ih =>
      rw [List.cons_append, ticketed, ih, ticketed, List.cons_append, List.length_cons,
        Nat.add_right_comm, Nat.add_assoc]

theorem map_snd_ticketed (ticket : Nat) (commands : List Command) :
    (ticketed ticket commands).map Prod.snd = commands := by
  induction commands generalizing ticket with
  | nil => rfl
  | cons command commands ih => exact congrArg (command :: ·) (ih (ticket + 1))

/-- Who waits for an answer to a dropped command is told that there is none. -/
theorem lookup_closed (k ticket : Nat) (commands : List Command) :
    (((ticketed ticket commands).filter (·.2.isAwaited)).map
        fun (ticket, _) => (ticket, Answer.closed)).lookup k =
      if ticket ≤ k then (commands[k - ticket]?.filter Command.isAwaited).map fun _ => .closed
      else none := by
  induction commands generalizing ticket with
  | nil => simp [ticketed]
  | cons command commands ih =>
      rw [ticketed, List.filter_cons]
      rcases Nat.lt_trichotomy k ticket with less | rfl | greater
      · have past : ¬ ticket + 1 ≤ k := by omega
        have other : (k == ticket) = false := beq_false_of_ne less.ne
        cases command.isAwaited <;>
          simp [List.lookup_cons, ih, past, other, Nat.not_le_of_lt less]
      · have past : ¬ k + 1 ≤ k := by omega
        cases awaited : command.isAwaited <;> simp [ih, past, awaited]
      · obtain ⟨i, rfl⟩ := Nat.exists_eq_add_of_lt greater
        have other : (ticket + i + 1 == ticket) = false := beq_false_of_ne greater.ne.symm
        have index : ticket + i + 1 - ticket = i + 1 := by omega
        have rest : ticket + i + 1 - (ticket + 1) = i := by omega
        have le : ticket ≤ ticket + i + 1 := by omega
        have le' : ticket + 1 ≤ ticket + i + 1 := by omega
        cases command.isAwaited <;>
          simp [List.lookup_cons, ih, index, rest, le, le', other]

/-! ## The first end -/

/-- Commands up to and including the first that ends the controller. -/
def upToDestroy : List Command → List Command
  | [] => []
  | command :: commands =>
    if command = .destroy then [command] else command :: upToDestroy commands

theorem upToDestroy_of_notMem {commands : List Command} (h : .destroy ∉ commands) :
    upToDestroy commands = commands := by
  induction commands with
  | nil => rfl
  | cons command commands ih =>
      have other : command ≠ .destroy := fun same => h (same ▸ List.mem_cons_self)
      rw [upToDestroy, if_neg other, ih fun later => h (List.mem_cons_of_mem _ later)]

theorem upToDestroy_append_destroy {commands : List Command} (h : .destroy ∉ commands)
    (more : List Command) :
    upToDestroy (commands ++ .destroy :: more) = commands ++ [.destroy] := by
  induction commands with
  | nil => rfl
  | cons command commands ih =>
      have other : command ≠ .destroy := fun same => h (same ▸ List.mem_cons_self)
      rw [List.cons_append, upToDestroy, if_neg other,
        ih fun later => h (List.mem_cons_of_mem _ later)]
      rfl

/-- What is posted behind the first end does not count. -/
theorem upToDestroy_append_of_mem {commands : List Command} (h : .destroy ∈ commands)
    (more : List Command) : upToDestroy (commands ++ more) = upToDestroy commands := by
  induction commands with
  | nil => exact absurd h List.not_mem_nil
  | cons command commands ih =>
      rw [List.cons_append, upToDestroy, upToDestroy]
      by_cases same : command = .destroy
      · rw [if_pos same, if_pos same]
      · rcases List.mem_cons.1 h with first | later
        · exact absurd first.symm same
        · rw [if_neg same, if_neg same, ih later]

/-! ## What services do -/

namespace Service

theorem note_eq (s : Service) (ticket : Ticket) (told : Option Answer) :
    s.note ticket told = { s with answers := (s.note ticket told).answers } := by
  cases told <;> rfl

theorem queue_carryOut {σ : Type} [Host σ] (s : Service) (ticket : Ticket) (command : Command)
    (shared : Shared σ) : (s.carryOut ticket command shared).1.queue = s.queue := by
  show (note _ ticket _).queue = s.queue
  rw [note_eq]

theorem running_carryOut {σ : Type} [Host σ] (s : Service) (ticket : Ticket) (command : Command)
    (shared : Shared σ) : (s.carryOut ticket command shared).1.running = s.running := by
  show (note _ ticket _).running = s.running
  rw [note_eq]

theorem answer?_note (s : Service) (ticket k : Ticket) (told : Option Answer) :
    (s.note ticket told).answer? k =
      if k = ticket then told.or (s.answer? k) else s.answer? k := by
  cases told with
  | none => simp [note]
  | some a =>
      by_cases same : k = ticket
      · rw [if_pos same, same]
        simp [note, answer, answer?]
      · have other : (k == ticket) = false := beq_false_of_ne same
        rw [if_neg same]
        simp [note, answer, answer?, List.lookup_cons, other]

theorem answer?_close {s : Service} {n : Nat} {commands : List Command}
    (waiting : s.queue = ticketed n commands) (k : Ticket) :
    s.close.answer? k =
      (if n ≤ k then (commands[k - n]?.filter Command.isAwaited).map fun _ => .closed
        else none).or (s.answer? k) := by
  rw [close, answer?, List.lookup_append, waiting, lookup_closed]
  rfl

/-- A command is accepted while the dispatcher runs, under the next ticket. -/
theorem eq_of_post {s s' : Service} {command : Command} {ticket : Ticket}
    (h : s.post command = (.accepted ticket, s')) :
    s.running = true ∧ ticket = s.nextTicket ∧
      s' = { s with
        queue := s.queue ++ [(s.nextTicket, command)], nextTicket := s.nextTicket + 1 } := by
  rw [post] at h
  split at h
  · cases h
  · next running =>
      split at h
      · cases h
      · cases h
        exact ⟨by simpa using running, rfl, rfl⟩

/-- A service that has stopped takes no command: whatever is asked of it, it is closed. -/
structure Stopped (s : Service) : Prop where
  post : ∀ command, s.post command = (.closed, s)
  tell : ∀ {σ : Type} [Host σ] (command : Command) (shared : Shared σ),
    s.tell command shared = ((.error .closed, s), shared)
  setUp : ∀ {σ : Type} [Host σ] (up : Bool) (shared : Shared σ),
    s.setUp up shared = ((.error .closed, s), shared)
  inventory : ∀ {σ : Type} [Host σ] (shared : Shared σ),
    s.inventory shared = ((.error .closed, s), shared)
  destroy : ∀ {σ : Type} [Host σ] (shared : Shared σ),
    s.destroy shared = ((.error .closed, s), shared)

theorem stopped {s : Service} (stopped : s.running = false) (empty : s.queue = []) :
    s.Stopped := by
  have refused : ∀ command, s.post command = (.closed, s) := by
    intro command
    simp [post, stopped]
  have submit : ∀ {σ : Type} [Host σ] (command : Command) (shared : Shared σ),
      s.submit command shared = ((none, s), shared) := by
    intro σ _ command shared
    have room : ¬ capacity ≤ s.queue.length := by simp [empty, capacity]
    simp only [Service.submit, if_neg room, LinkM.bind_run, LinkM.pure_run, refused]
  have ask : ∀ {σ : Type} [Host σ] (command : Command) (shared : Shared σ),
      s.ask command shared = ((.closed, s), shared) := by
    intro σ _ command shared
    simp only [Service.ask, LinkM.bind_run, submit, LinkM.pure_run]
  refine ⟨refused, ?_, ?_, ?_, ?_⟩
  · intro σ _ command shared
    simp only [tell, LinkM.bind_run, submit, LinkM.pure_run]
    rfl
  · intro σ _ up shared
    simp only [Service.setUp, LinkM.bind_run, ask, LinkM.pure_run]
  · intro σ _ shared
    simp only [Service.inventory, LinkM.bind_run, ask, LinkM.pure_run]
  · intro σ _ shared
    simp only [Service.destroy, LinkM.bind_run, ask, LinkM.pure_run]

end Service

/-! ## The dispatcher left alone -/

namespace Desk

variable {σ : Type} [Host σ] {d d' : Desk} {s s' : Shared σ}

/-- How many moves the dispatcher has left at most, unless more is posted. -/
def load (d : Desk) : Nat :=
  match d.phase with
  | .waiting => 2 * d.service.queue.length + 2
  | .holding .. => 2 * d.service.queue.length + 3
  | .leaving => 1
  | .returned => 0

/-- A move brings the dispatcher nearer to its end. -/
theorem Serves.load_lt (serves : d.Serves s d' s') (busy : d.isIdle = false) :
    d'.load < d.load := by
  cases serves with
  | take waiting first =>
      simp only [load, waiting, first, List.length_cons]
      omega
  | @carryOut ticket command holding =>
      have queue := d.service.queue_carryOut ticket command s
      by_cases last : command = .destroy <;> simp [load, holding, queue, last]
  | hangUp waiting => simp [load, waiting]
  | leave leaving => simp [load, leaving]
  | stay idle => exact absurd (idle.symm.trans busy) Bool.false_ne_true.symm

end Desk

/-! ## Moves one after another -/

/-- What can happen at a desk: a handle comes or goes, a command is posted, or the dispatcher moves.
    -/
inductive Move
  | clone
  | drop
  | post (command : Command)
  | serve
deriving DecidableEq

namespace Desk

variable {σ : Type} [Host σ]

/-- Moves of the handles and the dispatcher, with the commands posted so far. What cannot be done is
    passed over. -/
def run (posted : List Command) (d : Desk) (s : Shared σ) :
    List Move → List Command × Desk × Shared σ
  | [] => (posted, d, s)
  | .serve :: moves => run posted (d.serve s).1 (d.serve s).2 moves
  | .clone :: moves =>
    run posted (if 0 < d.handles then { d with handles := d.handles + 1 } else d) s moves
  | .drop :: moves =>
    run posted (if 0 < d.handles then { d with handles := d.handles - 1 } else d) s moves
  | .post command :: moves =>
    if 0 < d.handles then
      match d.service.post command with
      | (.accepted _, service) => run (posted ++ [command]) { d with service := service } s moves
      | _ => run posted d s moves
    else run posted d s moves

end Desk

theorem Works.run {σ : Type} [Host σ] {between : Shared σ → Shared σ → Prop} {c : Controller}
    {start s : Shared σ} {posted : List Command} {d : Desk} (moves : List Move)
    (works : Works between c start posted d s) :
    Works between c start (d.run posted s moves).1 (d.run posted s moves).2.1
      (d.run posted s moves).2.2 := by
  induction moves generalizing posted d s with
  | nil => exact works
  | cons move moves ih =>
      cases move with
      | clone =>
          by_cases held : 0 < d.handles
          · simp only [Desk.run, if_pos held]
            exact ih (works.clone held)
          · simp only [Desk.run, if_neg held]
            exact ih works
      | drop =>
          by_cases held : 0 < d.handles
          · simp only [Desk.run, if_pos held]
            exact ih (works.drop held)
          · simp only [Desk.run, if_neg held]
            exact ih works
      | post command =>
          by_cases held : 0 < d.handles
          · rw [Desk.run, if_pos held]
            split
            · next accepted => exact ih (works.post held accepted)
            · exact ih works
          · rw [Desk.run, if_neg held]
            exact ih works
      | serve => exact ih works.serve

end MeshLink
