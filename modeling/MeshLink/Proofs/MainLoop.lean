import MeshLink.Daemon.Run
import MeshLink.Proofs.Callers
import MeshLink.Proofs.Heeding
set_option autoImplicit false

/-! # From lines to calls

The daemon reads lines and passes their messages on; the dispatcher carries them out later, in its
own time. A line is done with once its message is posted. Still, what the daemon does is what it
would do if it heeded every message at once and ended the controller after the last: the queue
keeps the order, and the main loop posts nothing behind the end and leaves only when the end has
been carried out.

`Daemon.Course` has the main loop and the dispatcher act in every order, as `Works` does for
handles. `Daemon.serve` is one such order. -/

namespace MeshLink

namespace InputEvent

/-- The commands that are made of the messages of an input. -/
def commands (events : List InputEvent) : List Command :=
  (messages events).map Service.command

theorem commands_of_final {e : InputEvent} (final : e.isFinal = true) (events : List InputEvent) :
    commands (e :: events) = [] := by
  rw [commands, messages_of_final final, List.map_nil]

theorem commands_of_silent {text : String} (silent : Service.message? text = none)
    (events : List InputEvent) : commands (.line text :: events) = commands events := by
  rw [Service.message?_eq] at silent
  rw [commands, messages_of_silent silent, commands]

theorem commands_of_message {text : String} {m : DaemonMessage}
    (told : Service.message? text = some m) (events : List InputEvent) :
    commands (.line text :: events) = Service.command m :: commands events := by
  rw [Service.message?_eq] at told
  rw [commands, messages_of_message told, List.map_cons, commands]

theorem destroy_notMem_commands (events : List InputEvent) : .destroy ∉ commands events :=
  Service.destroy_notMem_map_command (messages events)

end InputEvent

section

variable {σ : Type} [Host σ] {service : Service} {text : String}

theorem Service.dispatchLine_of_silent (silent : message? text = none) (s : Shared σ) :
    service.dispatchLine text s = ((.ok (), service), s) := by
  rw [dispatchLine, silent]
  rfl

theorem Service.dispatchLine_of_message {m : DaemonMessage} (told : message? text = some m)
    (s : Shared σ) : service.dispatchLine text s = service.tell (command m) s := by
  rw [dispatchLine, told]

end

namespace Daemon

open InputEvent Controller

/-- Where the main loop is. -/
inductive Stage
  /-- It has these events still to come. -/
  | listening (events : List InputEvent)
  /-- It is out of the loop. -/
  | stopping
  /-- It waits for the answer to the end. -/
  | awaiting (ticket : Ticket)
  /-- It has dropped its handle and waits for the dispatcher to return. -/
  | done

/-- What the main loop or the dispatcher does next, with the commands posted by it. What has to wait
    does nothing: the main loop for room and for its answer, the dispatcher for a command. -/
inductive Acts {σ : Type} [Host σ] (stage : Stage) (d : Desk) (s : Shared σ) :
    List Command → Stage → Desk → Shared σ → Prop
  | skip {text : String} {events : List InputEvent} :
      stage = .listening (.line text :: events) → Service.message? text = none →
      Acts stage d s [] (.listening events) d s
  | pass {text : String} {events : List InputEvent} {m : DaemonMessage} {ticket : Ticket}
      {service : Service} :
      stage = .listening (.line text :: events) → Service.message? text = some m →
      d.service.post (Service.command m) = (.accepted ticket, service) →
      Acts stage d s [Service.command m] (.listening events) { d with service := service } s
  /-- The service has stopped. -/
  | refused {text : String} {events : List InputEvent} {m : DaemonMessage} {service : Service} :
      stage = .listening (.line text :: events) → Service.message? text = some m →
      d.service.post (Service.command m) = (.closed, service) →
      Acts stage d s [] .stopping d s
  | heard {e : InputEvent} {events : List InputEvent} :
      stage = .listening (e :: events) → e.isFinal = true → Acts stage d s [] .stopping d s
  | exhausted : stage = .listening [] → Acts stage d s [] .stopping d s
  | told {ticket : Ticket} {service : Service} :
      stage = .stopping → d.service.post .destroy = (.accepted ticket, service) →
      Acts stage d s [.destroy] (.awaiting ticket) { d with service := service } s
  | unheard {service : Service} :
      stage = .stopping → d.service.post .destroy = (.closed, service) →
      Acts stage d s [] .done { d with handles := d.handles - 1 } s
  | answered {ticket : Ticket} {a : Answer} :
      stage = .awaiting ticket → d.service.answer? ticket = some a →
      Acts stage d s [] .done { d with handles := d.handles - 1 } s
  | serve : d.isIdle = false → Acts stage d s [] stage (d.serve s).1 (d.serve s).2

/-- What the main loop and the dispatcher come to over these events, with the commands posted so
    far. Between any two acts the shared part may change as `between` says. -/
inductive Course {σ : Type} [Host σ] (between : Shared σ → Shared σ → Prop) (c : Controller)
    (start : Shared σ) (events : List InputEvent) :
    Stage → List Command → Desk → Shared σ → Prop
  | start : Course between c start events (.listening events) [] (.of c) start
  | act {stage stage' : Stage} {posted new : List Command} {d d' : Desk} {s s' : Shared σ} :
      Course between c start events stage posted d s → Acts stage d s new stage' d' s' →
      Course between c start events stage' (posted ++ new) d' s'
  | change {stage : Stage} {posted : List Command} {d : Desk} {s s' : Shared σ} :
      Course between c start events stage posted d s → between s s' →
      Course between c start events stage posted d s'

variable {σ : Type} [Host σ] {between : Shared σ → Shared σ → Prop} {c : Controller}
  {start s s' : Shared σ} {events : List InputEvent} {stage stage' : Stage}
  {posted new : List Command} {d d' : Desk}

/-! ## The commands posted -/

/-- What has been posted when the main loop is at a stage. -/
def Stage.Fits (events : List InputEvent) (posted : List Command) (handles : Nat) : Stage → Prop
  | .listening left => commands events = posted ++ commands left ∧ handles = 1
  | .stopping => commands events = posted ∧ handles = 1
  | .awaiting ticket =>
    posted = commands events ++ [.destroy] ∧ ticket = (commands events).length ∧ handles = 1
  | .done => posted = commands events ++ [.destroy] ∧ handles = 0

theorem post_ne_closed (works : Works between c start posted d s) (held : d.handles = 1)
    (alive : .destroy ∉ posted) (command : Command) (service : Service) :
    d.service.post command ≠ (.closed, service) := by
  have running := works.running (by rw [held]; exact Nat.one_pos) alive
  intro closed
  rw [Service.post, running, if_neg (by simp)] at closed
  split at closed <;> cases closed

/-- Every act of the main loop is one of handles, and posts the next of the commands or the end. -/
theorem Acts.fits (acts : Acts stage d s new stage' d' s')
    (works : Works between c start posted d s) (fits : stage.Fits events posted d.handles) :
    Works between c start (posted ++ new) d' s' ∧
      stage'.Fits events (posted ++ new) d'.handles := by
  have alive : ∀ {left : List Command}, commands events = posted ++ left → .destroy ∉ posted :=
    fun split found => destroy_notMem_commands events (split ▸ List.mem_append_left _ found)
  cases acts with
  | skip here silent =>
      subst here
      rw [Stage.Fits, commands_of_silent silent] at fits
      rw [List.append_nil]
      exact ⟨works, fits⟩
  | pass here told accepted =>
      subst here
      rw [Stage.Fits, commands_of_message told] at fits
      obtain ⟨split, held⟩ := fits
      refine ⟨works.post (by rw [held]; exact Nat.one_pos) accepted, ?_, held⟩
      rw [split, List.append_assoc]
      rfl
  | refused here told closed =>
      subst here
      obtain ⟨split, held⟩ := fits
      -- No end was posted so far, so nothing is refused.
      exact absurd closed (post_ne_closed works held (alive split) _ _)
  | heard here final =>
      subst here
      rw [Stage.Fits, commands_of_final final] at fits
      rw [List.append_nil] at fits ⊢
      exact ⟨works, fits⟩
  | exhausted here =>
      subst here
      have none : commands [] = [] := rfl
      rw [Stage.Fits, none] at fits
      rw [List.append_nil] at fits ⊢
      exact ⟨works, fits⟩
  | told here accepted =>
      subst here
      obtain ⟨split, held⟩ := fits
      -- The ticket of the end is the number of the commands posted before it.
      obtain ⟨n, answers, h⟩ := works.stands
      obtain ⟨-, rfl, -⟩ := Service.eq_of_post accepted
      refine ⟨works.post (by rw [held]; exact Nat.one_pos) accepted, ?_, ?_, held⟩
      · rw [split]
      · rw [split, h.next]
  | unheard here closed =>
      subst here
      obtain ⟨split, held⟩ := fits
      have all : commands events = posted ++ [] := split.trans (List.append_nil _).symm
      exact absurd closed (post_ne_closed works held (alive all) _ _)
  | answered here answered =>
      subst here
      obtain ⟨split, -, held⟩ := fits
      rw [List.append_nil]
      refine ⟨works.drop (by rw [held]; exact Nat.one_pos), split, ?_⟩
      rw [held]
  | serve =>
      have same : (d.serve s).1.handles = d.handles := by
        have serves := d.serve_serves s
        generalize d.serve s = after at serves
        obtain ⟨d', s'⟩ := after
        cases serves <;> rfl
      rw [List.append_nil, same]
      exact ⟨works.serve, fits⟩

theorem Course.fits (course : Course between c start events stage posted d s) :
    Works between c start posted d s ∧ stage.Fits events posted d.handles := by
  induction course with
  | start => exact ⟨.new, rfl, rfl⟩
  | act _ acts ih => exact acts.fits ih.1 ih.2
  | change _ change ih => exact ⟨ih.1.pass change, ih.2⟩

/-! ## The end of it -/

/-- How much there is to do for the main loop. -/
def Stage.load : Stage → Nat
  | .listening events => 3 * events.length + 5
  | .stopping => 4
  | .awaiting _ => 1
  | .done => 0

theorem load_post {command : Command} {ticket : Ticket} {service : Service}
    (accepted : d.service.post command = (.accepted ticket, service)) :
    ({ d with service := service } : Desk).load ≤ d.load + 2 := by
  obtain ⟨-, -, rfl⟩ := Service.eq_of_post accepted
  cases phase : d.phase <;> simp [Desk.load, phase] <;> omega

/-- Every act brings the whole nearer to its end. -/
theorem Acts.load_lt (acts : Acts stage d s new stage' d' s') :
    stage'.load + d'.load < stage.load + d.load := by
  have same : ({ d with handles := d.handles - 1 } : Desk).load = d.load := rfl
  cases acts with
  | skip here => rw [here]; simp only [Stage.load, List.length_cons]; omega
  | pass here _ accepted =>
      have more := load_post accepted
      rw [here]
      simp only [Stage.load, List.length_cons]
      omega
  | refused here => rw [here]; simp only [Stage.load, List.length_cons]; omega
  | heard here => rw [here]; simp only [Stage.load, List.length_cons]; omega
  | exhausted here => rw [here]; simp only [Stage.load, List.length_nil]; omega
  | told here accepted =>
      have more := load_post accepted
      rw [here]
      simp only [Stage.load]
      omega
  | unheard here => rw [here, same]; simp only [Stage.load]; omega
  | answered here => rw [here, same]; simp only [Stage.load]; omega
  | serve busy => exact Nat.add_lt_add_left ((d.serve_serves s).load_lt busy) _

/-- Before the end is posted an idle dispatcher leaves room for a command. -/
theorem exists_post_of_isIdle (works : Works between c start posted d s)
    (idle : d.isIdle = true) (held : d.handles = 1) (alive : .destroy ∉ posted)
    (command : Command) :
    ∃ ticket service, d.service.post command = (.accepted ticket, service) := by
  obtain ⟨n, answers, h⟩ := works.stands
  have running := works.running (by rw [held]; exact Nat.one_pos) alive
  have room : d.service.queue.length < Service.capacity := by
    rcases Desk.eq_of_isIdle idle with ⟨-, empty, -⟩ | returned
    · rw [empty]
      exact Nat.zero_lt_succ _
    · exact absurd returned (h.running.1 running)
  exact ⟨_, _, Service.post_of_room running room command⟩

/-- An idle dispatcher that was told to end has done so and answered it. -/
theorem exists_answer_of_isIdle {commands : List Command}
    (works : Works between c start (commands ++ [.destroy]) d s) (idle : d.isIdle = true)
    (alive : .destroy ∉ commands) : ∃ a, d.service.answer? commands.length = some a := by
  obtain ⟨n, answers, h⟩ := works.stands
  have told : (commands ++ [Command.destroy])[commands.length]? = some .destroy :=
    List.getElem?_concat_length
  rcases Desk.eq_of_isIdle idle with ⟨waiting, empty, -⟩ | returned
  · exact absurd (List.mem_of_getElem? told) (h.of_empty waiting empty).2
  · have all : (commands ++ [Command.destroy]).take n = commands ++ [.destroy] := by
      rw [(h.gone (by rw [returned]; rfl)).1]
      exact upToDestroy_append_destroy alive []
    have behind : commands.length < n := by
      have length := congrArg List.length all
      rw [List.length_take, Nat.min_eq_left h.bound, List.length_append] at length
      rw [length]
      exact Nat.lt_succ_self _
    obtain ⟨cₖ, sₖ, -, answered⟩ := h.reply behind told
    exact ⟨_, answered⟩

/-- There is something to do until the main loop is done and the dispatcher has returned. -/
theorem Course.exists_act (course : Course between c start events stage posted d s)
    (unfinished : ¬ (stage = .done ∧ d.phase = .returned)) :
    ∃ new stage' d' s', Acts stage d s new stage' d' s' := by
  cases idle : d.isIdle with
  | false => exact ⟨_, _, _, _, .serve idle⟩
  | true =>
      obtain ⟨works, fits⟩ := course.fits
      cases stage with
      | listening left =>
          obtain ⟨split, held⟩ := fits
          have alive : .destroy ∉ posted := fun found =>
            destroy_notMem_commands events (split ▸ List.mem_append_left _ found)
          cases left with
          | nil => exact ⟨_, _, _, _, .exhausted rfl⟩
          | cons e left =>
              cases e with
              | line text =>
                  cases told : Service.message? text with
                  | none => exact ⟨_, _, _, _, .skip rfl told⟩
                  | some m =>
                      obtain ⟨ticket, service, accepted⟩ :=
                        exists_post_of_isIdle works idle held alive (Service.command m)
                      exact ⟨_, _, _, _, .pass rfl told accepted⟩
              | _ => exact ⟨_, _, _, _, .heard rfl rfl⟩
      | stopping =>
          obtain ⟨split, held⟩ := fits
          obtain ⟨ticket, service, accepted⟩ := exists_post_of_isIdle works idle held
            (split ▸ destroy_notMem_commands events) .destroy
          exact ⟨_, _, _, _, .told rfl accepted⟩
      | awaiting ticket =>
          obtain ⟨rfl, rfl, held⟩ := fits
          obtain ⟨a, answered⟩ :=
            exists_answer_of_isIdle works idle (destroy_notMem_commands events)
          exact ⟨_, _, _, _, .answered rfl answered⟩
      | done =>
          obtain ⟨-, gone⟩ := fits
          rcases Desk.eq_of_isIdle idle with ⟨-, -, held⟩ | returned
          · exact absurd gone held
          · exact absurd ⟨rfl, returned⟩ unfinished

/-- At the end the messages have been heeded, and then the end. -/
theorem Course.heeds (course : Course between c start events .done posted d s)
    (returned : d.phase = .returned) :
    ∃ cₑ sₑ, Heeds between c start (messages events) cₑ sₑ ∧
      d.service.controller = (cₑ.destroy sₑ).1 ∧
      Relation.ReflTransGen between (cₑ.destroy sₑ).2 s := by
  obtain ⟨works, rfl, -⟩ := course.fits
  obtain ⟨n, answers, h⟩ := works.stands
  have obeys := h.finished returned
  rw [upToDestroy_append_destroy (destroy_notMem_commands events)] at obeys
  obtain ⟨before, -, once⟩ := obeys.destroy_once
  obtain ⟨_, cₑ, sₑ, obeys, -, ended, later⟩ := once.destroyed
  exact ⟨cₑ, sₑ, obeys.heeds, ended, later.reflTransGen⟩

/-! ## The daemon -/

/-- The lines are passed on as commands are posted. -/
theorem listen_works {service : Service}
    (works : Works between c start posted (service.desk 1) s)
    (alive : .destroy ∉ posted) (events : List InputEvent) :
    Works between c start (posted ++ commands events) ((listen service events s).1.desk 1)
      (listen service events s).2 := by
  induction events generalizing posted service s with
  | nil =>
      have none : posted ++ commands [] = posted := List.append_nil posted
      rw [none]
      exact works
  | cons e events ih =>
      cases e with
      | line text =>
          cases told : Service.message? text with
          | none =>
              have run : listen service (.line text :: events) s = listen service events s := by
                rw [listen, LinkM.bind_run, Service.dispatchLine_of_silent told]
              rw [run, commands_of_silent told]
              exact ih works alive
          | some m =>
              -- Posting lets the dispatcher serve first where there is no room.
              obtain ⟨ticket, next⟩ := works.submit Nat.one_pos alive (Service.command m)
              have run : listen service (.line text :: events) s =
                  listen (service.submit (Service.command m) s).1.2 events
                    (service.submit (Service.command m) s).2 := by
                rw [listen, LinkM.bind_run, Service.dispatchLine_of_message told,
                  Service.tell_of_submitted ticket]
              have alive' : .destroy ∉ posted ++ [Service.command m] := by
                rw [List.mem_append, List.mem_singleton]
                rintro (found | found)
                · exact alive found
                · cases m <;> cases found
              have rest := ih next alive'
              rw [List.append_assoc] at rest
              rw [run, commands_of_message told]
              exact rest
      | _ =>
          rw [commands_of_final rfl, List.append_nil]
          exact works

/-- The daemon does what direct calls do. -/
theorem serve_eq (c : Controller) (events : List InputEvent) (s : Shared σ) :
    Daemon.serve c events s = c.heedAll (messages events) s := by
  have alive := destroy_notMem_commands events
  have works : Works (fun _ _ => False) c s [] ((Service.new c).desk 1) s := .new
  have listened := listen_works works List.not_mem_nil events
  rw [List.nil_append] at listened
  obtain ⟨-, told⟩ := listened.service_destroy Nat.one_pos alive
  obtain ⟨stopped, finished⟩ := told.dropLast.finish
  obtain ⟨n, answers, h⟩ := finished.stands
  have obeys := h.finished (Service.phase_desk_of_stopped stopped 0)
  rw [upToDestroy_append_destroy alive] at obeys
  obtain ⟨before, -, once⟩ := obeys.destroy_once
  rw [heedAll_eq, ← commands, once.eq_obeyAll fun _ _ => not_false]
  simp only [Daemon.serve, LinkM.bind_run, LinkM.pure_run]
  rfl

/-! ## The start and the end -/

/-- A controller with these resources heeds messages and is ended: everything mirrored by then is
    asked to be deleted, and all is released. -/
structure EndsClean (between : Shared (Recorded σ) → Shared (Recorded σ) → Prop) (c : Controller)
    (r : Resources) (start : Shared (Recorded σ)) (messages : List DaemonMessage)
    (c' : Controller) : Prop where
  state : c'.state = .destroyed
  exists_tearsDown : ∃ cₑ sₑ deletions, Heeds between c start messages cₑ sₑ ∧
    c' = (cₑ.destroy sₑ).1 ∧
    cₑ.TearsDown r sₑ deletions [.close .device, .close .routes, .close .groups]
      (cₑ.destroy sₑ).1 (cₑ.destroy sₑ).2

theorem endsClean_of_heeds {between : Shared (Recorded σ) → Shared (Recorded σ) → Prop}
    {config : Config} {first start : Shared (Recorded σ)} {cₑ : Controller}
    {sₑ : Shared (Recorded σ)} {r : Resources} {messages : List DaemonMessage}
    (reach : Reaches between config first c start) (held : c.resources = some r)
    (heeds : Heeds between c start messages cₑ sₑ) :
    EndsClean between c r start messages (cₑ.destroy sₑ).1 := by
  obtain ⟨staged, same⟩ := heeds.resources_eq reach.isStaged
  rw [held] at same
  have active : cₑ.state.isActive = true := by
    rw [← staged, same]
    rfl
  obtain ⟨deletions, ended, -, down⟩ :=
    (destroy_transition sₑ).tearsDown_of_destroyed active same
  exact ⟨ended, cₑ, sₑ, deletions, heeds, rfl, down⟩

/-- A controller that was brought up has been started and is up. -/
theorem reaches_of_bringUp [Netlink.Decoder] {config : Config} {device : Device}
    {s s' : Shared Machine} (ok : bringUp config device s = (.ok c, s')) :
    Reaches (fun _ _ => False) config s c s' ∧ c.state = .up := by
  have started : (Reaches (fun _ _ => False) config s (.new config) s) := .new
  rw [bringUp, LinkM.bind_run] at ok
  rcases start : (Controller.new config).start device s with ⟨⟨e | u, c₁⟩, s₁⟩
  · rw [start] at ok
    cases ok
  · rw [start] at ok
    have reach : Reaches (fun _ _ => False) config s c₁ s₁ := by
      have next := started.operate (.start device)
      rwa [show (Controller.new config).apply (.start device) s = _ from start] at next
    dsimp only at ok
    rw [LinkM.bind_run] at ok
    rcases raise : c₁.setUp true s₁ with ⟨⟨e | u, c₂⟩, s₂⟩
    · rw [raise] at ok
      cases ok
    · rw [raise] at ok
      cases ok
      have next := reach.operate (.setUp true)
      have t := apply_transition reach.isStaged (.setUp true) s₁
      rw [show c₁.apply (.setUp true) s₁ = _ from raise] at next t
      refine ⟨next, ?_⟩
      cases t with
      | raised => rfl

/-- A daemon that ends without an error has brought a controller up and done what direct calls
    do. -/
theorem heedAll_of_run [Netlink.Decoder] {args : Args} {s s' : Shared Machine}
    (ok : run args events s = (.ok (), s')) :
    ∃ config device s₀ c s₁, Config.of args.interface args.mtu = .ok config ∧
      LinkM.onHost (openDevice config args.tunFd) s = (.ok device, s₀) ∧
      bringUp config device s₀ = (.ok c, s₁) ∧
      s' = (c.heedAll (messages events) s₁).2 := by
  rw [run] at ok
  cases settings : Config.of args.interface args.mtu with
  | error e =>
      rw [settings] at ok
      cases ok
  | ok config =>
      rw [settings] at ok
      dsimp only at ok
      rw [LinkM.bind_run] at ok
      rcases opened : LinkM.onHost (openDevice config args.tunFd) s with ⟨e | device, s₀⟩
      · rw [opened] at ok
        cases ok
      · rw [opened] at ok
        dsimp only at ok
        rw [LinkM.bind_run] at ok
        rcases up : bringUp config device s₀ with ⟨e | c, s₁⟩
        · rw [up] at ok
          cases ok
        · rw [up] at ok
          dsimp only at ok
          rw [LinkM.bind_run, serve_eq] at ok
          exact ⟨config, device, s₀, c, s₁, rfl, opened, up, (congrArg Prod.snd ok).symm⟩

/-- **The daemon does as direct calls do.** Whatever the lines are and however the main loop and the
    dispatcher take turns, the controller heeds the messages in front of the first event that ends
    the input, in order, and is ended: the calls and the controller are those of direct calls.
    Lines without a message, blank ones among them, contribute nothing, and neither do the blanks
    around a message. There is always something
    left to do before that end, and every act leaves less to do. At the end the controller is
    destroyed, and the deletion of every address mirrored by then has been asked for. -/
theorem serves_as_direct_calls :
    (∀ {σ : Type} [Host σ] (c : Controller) (events : List InputEvent) (s : Shared σ),
      Daemon.serve c events s = c.heedAll (messages events) s) ∧
    (∀ [Netlink.Decoder] {args : Args} {events : List InputEvent} {s s' : Shared Machine},
      run args events s = (.ok (), s') →
      ∃ config s₀ c s₁, Reaches (fun _ _ => False) config s₀ c s₁ ∧ c.state = .up ∧
        s' = (c.heedAll (messages events) s₁).2) ∧
    (∀ {σ : Type} [Host σ] {between : Shared σ → Shared σ → Prop} {c : Controller}
        {start s : Shared σ} {events : List InputEvent} {stage : Stage} {posted : List Command}
        {d : Desk}, Course between c start events stage posted d s →
      (∀ {new : List Command} {stage' : Stage} {d' : Desk} {s' : Shared σ},
        Acts stage d s new stage' d' s' → stage'.load + d'.load < stage.load + d.load) ∧
      (stage = .done ∧ d.phase = .returned ∨
        ∃ new stage' d' s', Acts stage d s new stage' d' s') ∧
      (stage = .done → d.phase = .returned →
        ∃ cₑ sₑ, Heeds between c start (messages events) cₑ sₑ ∧
          d.service.controller = (cₑ.destroy sₑ).1 ∧
          Relation.ReflTransGen between (cₑ.destroy sₑ).2 s)) ∧
    (∀ {text : String}, (InputEvent.line text).message? = none →
      ∀ before after : List InputEvent,
        messages (before ++ .line text :: after) = messages (before ++ after)) ∧
    (∀ {text : String}, (∀ ch ∈ text.toList, isWhiteSpace ch = true) →
      (InputEvent.line text).message? = none) ∧
    (∀ {before core after : List Char}, (∀ ch ∈ before, isWhiteSpace ch = true) →
      (∀ ch ∈ after, isWhiteSpace ch = true) →
      (∀ ch ∈ core.head?, isWhiteSpace ch = false) →
      (∀ ch ∈ core.getLast?, isWhiteSpace ch = false) →
      (InputEvent.line (String.ofList (before ++ core ++ after))).message? =
        DaemonMessage.ofText? (String.ofList core)) ∧
    ∀ {σ : Type} [Host σ] {between : Shared (Recorded σ) → Shared (Recorded σ) → Prop}
        {config : Config} {first s : Shared (Recorded σ)} {c : Controller} {r : Resources},
      Reaches between config first c s → c.resources = some r → ∀ events : List InputEvent,
        EndsClean between c r s (messages events) (Daemon.serve c events s).1 ∧
        ∀ {posted : List Command} {d : Desk} {s' : Shared (Recorded σ)},
          Course between c s events .done posted d s' → d.phase = .returned →
          EndsClean between c r s (messages events) d.service.controller := by
  refine ⟨serve_eq, ?_, ?_, messages_append_silent, message?_of_blank, message?_of_surrounded, ?_⟩
  · intro _ args events s s' ok
    obtain ⟨config, device, s₀, c, s₁, -, -, up, last⟩ := heedAll_of_run ok
    obtain ⟨reach, state⟩ := reaches_of_bringUp up
    exact ⟨config, s₀, c, s₁, reach, state, last⟩
  · intro σ _ between c start s events stage posted d course
    refine ⟨fun acts => acts.load_lt, ?_, ?_⟩
    · by_cases finished : stage = .done ∧ d.phase = .returned
      · exact .inl finished
      · exact .inr (course.exists_act finished)
    · rintro rfl returned
      exact course.heeds returned
  · intro σ _ between config first s c r reach held events
    constructor
    · rw [serve_eq]
      exact endsClean_of_heeds reach held (heeds_foldlM c s _)
    · intro posted d s' course returned
      obtain ⟨cₑ, sₑ, heeds, ended, -⟩ := course.heeds returned
      rw [ended]
      exact endsClean_of_heeds reach held heeds

/-- One message reports an address and the next one that the mesh daemon is gone, which takes the
    address down again. A network and another address are reported after that; the lines between
    them are blank or no message, and the line behind the interrupt is not read. -/
theorem serves_as_direct_calls_till_interrupt :
    let start : Shared (Recorded MemoryKernel) := ⟨0, MemoryKernel.idle 0, []⟩
    let ops : List Operation := [.start ⟨Config.defaultInterface⟩, .setUp true]
    let c := ((Controller.new .default).run start ops).1
    let s := ((Controller.new .default).run start ops).2
    let r : Resources := ⟨⟨Config.defaultInterface⟩, MemoryKernel.defaultIndex⟩
    let events : List InputEvent := [
      .line "\x7b\"addresses\":[[[253,0,0,0,0,0,0,0,0,0,0,0,0,0,0,1],64,false,false,true]]\x7d",
      .line " \t", .line "\"daemon_died\"", .line "[\"daemon_died\"]",
      .line "  \x7b\"prefixes\":[[[254],8]]\x7d ",
      .line "\x7b\"addresses\":[[[253,0,0,0,0,0,0,0,0,0,0,0,0,0,0,2],64,false,false,true]]\x7d",
      .interrupt, .line "\"daemon_died\""]
    Reaches (fun s s' => s' = s) .default start c s ∧ c.resources = some r ∧
      s.host.host.linkUp = true ∧
      messages events = [.addresses [.numbered 1 true], .died, .prefixes [⟨[254], 8⟩],
        .addresses [.numbered 2 true]] ∧
      ((messages events).foldlM heed c s).1.inventory.addresses = [.numbered 2] ∧
      (Daemon.serve c events s).2.host.host.messages.map (·.type) = [20, 21, 20, 21] ∧
      (Daemon.serve c events s).2.host.host.linkUp = false ∧
      Daemon.serve c events s = c.heedAll (messages events) s ∧
      EndsClean (fun s s' => s' = s) c r s (messages events) (Daemon.serve c events s).1 := by
  intro start ops c s r events
  have reach : Reaches (fun s s' => s' = s) .default start c s := Reaches.run ops .new
  have held : c.resources = some r := by decide +kernel
  have up : s.host.host.linkUp = true := by decide +kernel
  have told : messages events = [.addresses [.numbered 1 true], .died, .prefixes [⟨[254], 8⟩],
      .addresses [.numbered 2 true]] := by
    decide +kernel
  have mirrored : ((messages events).foldlM heed c s).1.inventory.addresses = [.numbered 2] := by
    rw [told]
    decide +kernel
  have run := serves_as_direct_calls.1 c events s
  have sent : (Daemon.serve c events s).2.host.host.messages.map (·.type) = [20, 21, 20, 21] := by
    rw [run, told]
    decide +kernel
  have down : (Daemon.serve c events s).2.host.host.linkUp = false := by
    rw [run, told]
    decide +kernel
  clear_value c s events
  exact ⟨reach, held, up, told, mirrored, sent, down, run,
    (serves_as_direct_calls.2.2.2.2.2.2 reach held events).1⟩

end Daemon
end MeshLink
