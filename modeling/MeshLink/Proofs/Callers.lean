import MeshLink.Proofs.Linearization
set_option autoImplicit false

/-! # Callers that let the dispatcher run

A caller of a `Service` lets its dispatcher serve whenever the caller has to wait: for room, for an
answer, or for the end. That is one of the orders in which a dispatcher and its handles can act,
with no command in hand whenever a caller acts. So what is known of all orders is known of it. -/

namespace MeshLink

/-- A service between two moves of its dispatcher. -/
def Service.desk (service : Service) (handles : Nat) : Desk :=
  ⟨service, if service.running then .waiting else .returned, handles⟩

namespace Service

theorem phase_desk_of_stopped {service : Service} (stopped : service.running = false)
    (handles : Nat) : (service.desk handles).phase = .returned := by
  rw [desk, stopped]
  rfl

variable {σ : Type} [Host σ]

/-- Serving takes the first command off the queue, and an end empties it. -/
theorem length_queue_serve (service : Service) (s : Shared σ) :
    (service.serve s).1.queue.length ≤ service.queue.length - 1 := by
  cases queue : service.queue with
  | nil => simp [serve, queue, LinkM.pure_run]
  | cons first rest =>
      obtain ⟨ticket, command⟩ := first
      rw [serve, queue]
      show (({ service with queue := rest } : Service).handle ticket command s).1.queue.length ≤ _
      rw [handle_eq]
      by_cases last : command = .destroy
      · simp [last, close]
      · simp [last, queue_carryOut]

theorem length_queue_serveMany (n : Nat) (service : Service) (s : Shared σ) :
    (serveMany n service s).1.queue.length ≤ service.queue.length - n := by
  induction n generalizing service s with
  | zero => exact Nat.le_refl _
  | succ n ih =>
      have first := service.length_queue_serve s
      have rest := ih (service.serve s).1 (service.serve s).2
      show (serveMany n (service.serve s).1 (service.serve s).2).1.queue.length ≤ _
      omega

theorem queue_drain (service : Service) (s : Shared σ) : (service.drain s).1.queue = [] := by
  have none := length_queue_serveMany service.queue.length service s
  rw [Nat.sub_self] at none
  exact List.eq_nil_of_length_eq_zero (Nat.le_zero.1 none)

theorem destroy_carryOut (service : Service) (ticket : Ticket) (s : Shared σ) :
    (service.carryOut ticket .destroy s).1.controller.destroy
        (service.carryOut ticket .destroy s).2 =
      ((service.carryOut ticket .destroy s).1.controller,
        (service.carryOut ticket .destroy s).2) :=
  Controller.destroy_eq_self (service.controller.state_destroy s) _

/-- Everything that waits is served if there is no room for more. -/
def makeRoom (service : Service) : LinkM σ Service :=
  if capacity ≤ service.queue.length then service.drain else pure service

theorem length_queue_makeRoom (service : Service) (s : Shared σ) :
    (service.makeRoom s).1.queue.length < capacity := by
  rw [makeRoom]
  split
  · rw [queue_drain]
    exact Nat.zero_lt_succ _
  · next room => exact Nat.lt_of_not_le room

theorem submit_of_accepted {service after : Service} {command : Command} {ticket : Ticket}
    {s : Shared σ} (accepted : (service.makeRoom s).1.post command = (.accepted ticket, after)) :
    service.submit command s = ((some ticket, after), (service.makeRoom s).2) := by
  by_cases full : capacity ≤ service.queue.length
  · rw [makeRoom, if_pos full] at accepted ⊢
    simp only [submit, if_pos full, LinkM.bind_run, accepted, LinkM.pure_run]
  · rw [makeRoom, if_neg full, LinkM.pure_run] at accepted ⊢
    simp only [submit, if_neg full, LinkM.bind_run, LinkM.pure_run, accepted]

theorem tell_of_submitted {service : Service} {command : Command} {ticket : Ticket} {s : Shared σ}
    (submitted : (service.submit command s).1.1 = some ticket) :
    service.tell command s =
      ((.ok (), (service.submit command s).1.2), (service.submit command s).2) := by
  simp only [tell, LinkM.bind_run, LinkM.pure_run, submitted, Option.isSome_some, if_true]

theorem ask_of_submitted {service : Service} {command : Command} {ticket : Ticket} {s : Shared σ}
    (submitted : (service.submit command s).1.1 = some ticket) :
    service.ask command s =
      let after := (service.submit command s).1.2.drain (service.submit command s).2
      (((after.1.answer? ticket).getD .closed, after.1), after.2) := by
  rcases run : service.submit command s with ⟨⟨posted, after⟩, s'⟩
  rw [run] at submitted
  cases submitted
  simp only [ask, LinkM.bind_run, run, LinkM.pure_run]

theorem post_of_room {service : Service} (running : service.running = true)
    (room : service.queue.length < capacity) (command : Command) :
    service.post command = (.accepted service.nextTicket,
      { service with
        queue := service.queue ++ [(service.nextTicket, command)]
        nextTicket := service.nextTicket + 1 }) := by
  rw [post, running, if_neg (by simp), if_neg (Nat.not_le_of_lt room)]

end Service

variable {σ : Type} [Host σ] {between : Shared σ → Shared σ → Prop} {c : Controller}
  {start s : Shared σ} {posted : List Command} {service : Service} {handles : Nat} {d : Desk}

namespace Works

/-- The dispatcher runs while there are handles and no end was posted. -/
theorem running (works : Works between c start posted d s) (held : 0 < d.handles)
    (alive : .destroy ∉ posted) : d.service.running = true := by
  obtain ⟨n, answers, h⟩ := works.stands
  rw [h.running]
  intro returned
  obtain ⟨-, ended | alone⟩ := h.gone (by rw [returned]; rfl)
  · exact alive ended
  · exact held.ne' alone

/-- Serving is taking the first command, carrying it out and, if it is an end, leaving. -/
theorem service_serve (works : Works between c start posted (service.desk handles) s) :
    Works between c start posted ((service.serve s).1.desk handles) (service.serve s).2 := by
  cases queue : service.queue with
  | nil =>
      rw [Service.serve, queue]
      exact works
  | cons first rest =>
      obtain ⟨ticket, command⟩ := first
      have running : service.running = true := by
        obtain ⟨n, answers, h⟩ := works.stands
        by_contra stopped
        have returned : (service.desk handles).phase = .returned := if_neg stopped
        have none := h.pending
        rw [if_pos returned, Desk.pending, returned] at none
        rw [show service.queue = [] from none] at queue
        cases queue
      -- To serve is to take the command and to carry it out, and behind an end to leave, too.
      have taken := works.serve
      rw [Desk.serve_of_cons (if_pos running) queue] at taken
      have done := taken.serve
      rw [Desk.serve_of_holding rfl] at done
      have serve : service.serve s =
          ({ service with queue := rest } : Service).handle ticket command s := by
        rw [Service.serve, queue]
      rw [serve, Service.handle_eq]
      by_cases last : command = .destroy
      · subst last
        have left := done.serve
        rw [Desk.serve_of_leaving rfl] at left
        simp only [Service.destroy_carryOut] at left
        rw [if_pos rfl]
        exact left
      · have still : (({ service with queue := rest } : Service).carryOut ticket command
            s).1.running = true :=
          (Service.running_carryOut _ _ _ _).trans running
        rw [if_neg last] at done ⊢
        rw [Service.desk, if_pos still]
        exact done

theorem serveMany (works : Works between c start posted (service.desk handles) s) (n : Nat) :
    Works between c start posted ((Service.serveMany n service s).1.desk handles)
      (Service.serveMany n service s).2 := by
  induction n generalizing service s with
  | zero => exact works
  | succ n ih => exact ih works.service_serve

theorem drain (works : Works between c start posted (service.desk handles) s) :
    Works between c start posted ((service.drain s).1.desk handles) (service.drain s).2 :=
  works.serveMany service.queue.length

theorem makeRoom (works : Works between c start posted (service.desk handles) s) :
    Works between c start posted ((service.makeRoom s).1.desk handles) (service.makeRoom s).2 := by
  rw [Service.makeRoom]
  split
  · exact works.drain
  · exact works

/-- A command is posted under the next ticket, after some serving if there is no room. -/
theorem submit (works : Works between c start posted (service.desk handles) s)
    (held : 0 < handles) (alive : .destroy ∉ posted) (command : Command) :
    (service.submit command s).1.1 = some posted.length ∧
      Works between c start (posted ++ [command]) ((service.submit command s).1.2.desk handles)
        (service.submit command s).2 := by
  have ready := works.makeRoom
  have accepted := Service.post_of_room (ready.running held alive)
    (service.length_queue_makeRoom s) command
  rw [Service.submit_of_accepted accepted]
  obtain ⟨n, answers, h⟩ := ready.stands
  exact ⟨congrArg some h.next, ready.post held accepted⟩

/-- Nothing is left to do after everything was served, and behind an end the dispatcher is gone. -/
theorem running_drain (works : Works between c start posted (service.desk handles) s)
    (told : .destroy ∈ posted) : (service.drain s).1.running = false := by
  obtain ⟨n, answers, h⟩ := works.drain.stands
  by_contra running
  rw [Bool.not_eq_false] at running
  exact (h.of_empty (if_pos running) (service.queue_drain s)).2 told

/-- Asking for the end carries out everything, the end included. -/
theorem service_destroy (works : Works between c start posted (service.desk handles) s)
    (held : 0 < handles) (alive : .destroy ∉ posted) :
    (service.destroy s).1.2.running = false ∧
      Works between c start (posted ++ [.destroy]) ((service.destroy s).1.2.desk handles)
        (service.destroy s).2 := by
  obtain ⟨ticket, told⟩ := works.submit held alive .destroy
  have stopped := told.running_drain (List.mem_append_right _ List.mem_cons_self)
  have drained := told.drain
  have run := Service.ask_of_submitted ticket
  generalize (service.submit .destroy s).1.2.drain (service.submit .destroy s).2 = after
    at stopped drained run
  -- Whatever the answer is, nothing is done about it.
  have same : (service.destroy s).1.2 = after.1 ∧ (service.destroy s).2 = after.2 := by
    rw [Service.destroy, LinkM.bind_run, run]
    dsimp only
    cases (after.1.answer? posted.length).getD .closed <;> exact ⟨rfl, rfl⟩
  rw [same.1, same.2]
  exact ⟨stopped, drained⟩

theorem dropLast (works : Works between c start posted (service.desk 1) s) :
    Works between c start posted (service.desk 0) s :=
  works.drop Nat.one_pos

/-- Once the handles are gone, everything that waits is served and the controller is ended. -/
theorem finish (works : Works between c start posted (service.desk 0) s) :
    (service.finish s).1.running = false ∧
      Works between c start posted ((service.finish s).1.desk 0) (service.finish s).2 := by
  refine ⟨rfl, ?_⟩
  have drained := works.drain
  have run : service.finish s =
      ({ (service.drain s).1 with controller :=
          ((service.drain s).1.controller.destroy (service.drain s).2).1 }.close,
        ((service.drain s).1.controller.destroy (service.drain s).2).2) := rfl
  have empty := service.queue_drain s
  rw [run]
  generalize service.drain s = ready at drained empty
  cases running : ready.1.running with
  | true =>
      -- Nothing waits and no handle is left, so the dispatcher hangs up and leaves.
      have alone := drained.serve
      have gone : (ready.1.desk 0).handles = 0 := rfl
      rw [Desk.serve_of_empty (if_pos running) empty, if_pos gone] at alone
      have left := alone.serve
      rw [Desk.serve_of_leaving rfl] at left
      exact left
  | false =>
      -- The end was carried out before, so that a second one changes nothing.
      obtain ⟨n, answers, h⟩ := drained.stands
      obtain ⟨-, c₁, s₁, -, -, ended, -⟩ :=
        (h.ended (Service.phase_desk_of_stopped running 0)).destroyed
      have destroyed : ready.1.controller.state = .destroyed := by
        rw [show ready.1.controller = _ from ended]
        exact c₁.state_destroy s₁
      have same : ready.1.close = ready.1 := by
        rw [Service.close, ← running, empty]
        exact congrArg (fun queue => { ready.1 with queue := queue }) empty.symm
      rw [Controller.destroy_eq_self destroyed]
      exact same.symm ▸ drained

end Works
end MeshLink
