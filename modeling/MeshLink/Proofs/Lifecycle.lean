import MeshLink.Proofs.Replay
set_option autoImplicit false

/-! # Stages of life

From which stage to which an operation leads, and what it leaves alone when it is refused.

The stage after an operation depends on the stage before it, on the operation and on whether it
succeeded (`Lifecycle.next`). Going down does not wait for the link: the interface is stripped by
then, so the stage follows the mirror. Going up changes nothing but the link, so a failure leaves
the stage. The resources come and go with the active stages, and without them nobody asks the kernel
for an address, so nothing is mirrored.

An operation that is refused (`Controller.Refuses`) leaves the controller as it was. It may have
asked the host for an interface or a socket, but for no address and no group. -/

namespace MeshLink

/-- The stage after an operation that succeeded or failed. -/
def Lifecycle.next (l : Lifecycle) (op : Operation) (succeeded : Bool) : Lifecycle :=
  match op with
  | .start _ => if l = .created ∧ succeeded then .initialized else l
  | .setUp true => if l.isActive ∧ succeeded then .up else l
  | .setUp false | .daemonDied => if l.isActive then .down else l
  | .addresses _ | .prefixes _ => l
  | .destroy => .destroyed

theorem Lifecycle.isActive_iff (l : Lifecycle) :
    l.isActive = true ↔ l = .initialized ∨ l = .up ∨ l = .down := by
  cases l <;> decide

/-! ## Kernels at rest -/

/-- What is about neither an address nor a group leaves those of a kernel alone, also where
    failures are scripted and calls are written down. -/
theorem SessionHost.of_quiet {e : Exchange} (quiet : e.isQuiet = true) {h h' : SessionHost}
    (leads : e.Leads h h') :
    h'.kernel.addresses = h.kernel.addresses ∧ h'.kernel.groups = h.kernel.groups := by
  rcases leads.unrecorded.unscripted with passed | ⟨-, same⟩
  · exact MemoryKernel.of_quiet quiet passed
  · rw [kernel, kernel, same]
    exact ⟨rfl, rfl⟩

namespace Controller

variable {σ : Type} [Host σ] {c c' : Controller} {s s' : Shared σ} {op : Operation}
  {result : ControllerResult}

theorem Rests.kernel_eq {s s' : Shared SessionHost} {es : List Exchange} (rest : Rests s es s') :
    s'.host.kernel.addresses = s.host.kernel.addresses ∧
      s'.host.kernel.groups = s.host.kernel.groups := by
  refine rest.dialogue.keeps
    (P := fun h : SessionHost => h.kernel.addresses = s.host.kernel.addresses ∧
      h.kernel.groups = s.host.kernel.groups) ?_ ⟨rfl, rfl⟩
  intro e he h h' leads before
  obtain ⟨addresses, groups⟩ := SessionHost.of_quiet (rest.quiet e he) leads
  exact ⟨addresses.trans before.1, groups.trans before.2⟩

/-- The calls that a recorded host writes down while the shared part rests are about neither
    addresses nor groups. -/
theorem Rests.exists_calls {s s' : Shared (Recorded σ)} {es : List Exchange}
    (rest : Rests s es s') :
    ∃ log, s'.host.calls = s.host.calls ++ log ∧
      ∀ call ∈ log, (Exchange.call call).isQuiet = true := by
  refine ⟨_, rest.dialogue.calls_eq, ?_⟩
  intro call made
  obtain ⟨e, he, told⟩ := List.mem_filterMap.1 made
  cases e with
  | clock time => cases told
  | call made =>
      cases told
      exact rest.quiet _ he

/-! ## Stages -/

theorem IsStaged.isSome_iff (staged : c.IsStaged) :
    c.resources.isSome = true ↔
      c.state = .initialized ∨ c.state = .up ∨ c.state = .down := by
  rw [staged]
  exact c.state.isActive_iff

theorem IsStaged.resources_eq_none (staged : c.IsStaged) (idle : c.state.isActive = false) :
    c.resources = none := by
  rw [← Option.not_isSome_iff_eq_none, staged, idle]
  exact Bool.false_ne_true

theorem resources_ne_none {i : UInt32} (index : c.ifIndex = some i) : c.resources ≠ none := by
  intro none
  rw [ifIndex, none] at index
  exact Option.some_ne_none i index.symm

/-- An operation leads to the next stage. -/
theorem Transition.state_eq (t : c.Transition s op result c' s') :
    c'.state = c.state.next op result.isOk := by
  induction t with
  | @notStarted device =>
      show c.state = if c.state = .created ∧ false = true then .initialized else c.state
      rw [if_neg fun h => Bool.false_ne_true h.2]
  | started created =>
      rw [created]
      rfl
  | @notSwitched up idle => cases up <;> simp [Lifecycle.next, idle]
  | notRaised =>
      show c.state = if c.state.isActive = true ∧ false = true then .up else c.state
      rw [if_neg fun h => Bool.false_ne_true h.2]
  | raised active => exact (if_pos ⟨active, rfl⟩).symm
  | lowered active => exact (if_pos active).symm
  | ignored => rfl
  | reconciled => exact state_reconciled c _ _
  | prefixes => exact state_updatePrefixes c _
  | died _ ih => exact ih
  | destroyedBefore ended => exact ended
  | destroyedUnused => rfl
  | destroyed => rfl

/-- Without resources nothing is mirrored, and no operation changes that. -/
theorem Transition.addresses_eq_nil (t : c.Transition s op result c' s')
    (h : c.resources = none → c.inventory.addresses = []) (none : c'.resources = none) :
    c'.inventory.addresses = [] := by
  induction t with
  | started => exact absurd none (Option.some_ne_none _)
  | lowered => rfl
  | reconciled step =>
      -- A snapshot is applied only with resources, and leaves them.
      rw [resources_reconciled] at none
      exact absurd none (resources_ne_none step.index)
  | prefixes =>
      rw [resources_updatePrefixes] at none
      rw [addresses_updatePrefixes]
      exact h none
  | died _ ih => exact ih none
  | destroyed => rfl
  | _ => exact h none

variable {between : Shared σ → Shared σ → Prop} {config : Config} {start : Shared σ}

theorem Reaches.addresses_eq_nil (reach : Reaches between config start c s)
    (none : c.resources = none) : c.inventory.addresses = [] :=
  reach.invariant (P := fun c _ => c.resources = .none → c.inventory.addresses = [])
    (fun _ => rfl) Transition.addresses_eq_nil (fun _ h => h) none

/-! ## Refusals -/

/-- An operation with this result is refused. -/
inductive Refuses (c : Controller) : Operation → ControllerResult → Prop
  /-- It does not start, for whatever reason. -/
  | start {device : Device} {e : ControllerError} : Refuses c (.start device) (.error e)
  /-- The link does not come up, for whatever reason. -/
  | raise {e : ControllerError} : Refuses c (.setUp true) (.error e)
  /-- The link cannot be switched at this stage. -/
  | link {up : Bool} {result : ControllerResult} :
      c.state = .created ∨ c.state = .destroyed → Refuses c (.setUp up) result
  | died {result : ControllerResult} :
      c.state = .created ∨ c.state = .destroyed → Refuses c .daemonDied result
  /-- There is nothing to apply addresses with. -/
  | addresses {snapshot : List AddressReport} {result : ControllerResult} :
      c.resources = none → Refuses c (.addresses snapshot) result
  /-- Nothing can be done any more. -/
  | ended {op : Operation} {result : ControllerResult} :
      c.state = .destroyed → Refuses c op result

theorem Refuses.isActive_eq_false {up : Bool} (h : c.Refuses (.setUp up) result)
    (failed : up = true → ∀ e, result ≠ .error e) : c.state.isActive = false := by
  cases h with
  | raise => exact absurd rfl (failed rfl _)
  | link idle => rcases idle with idle | idle <;> rw [idle] <;> rfl
  | ended ended => rw [ended]; rfl

/-- What is refused leaves the controller as it was, takes no number, and asks for neither an
    address nor a group. -/
theorem Transition.eq_of_refuses (t : c.Transition s op result c' s') (staged : c.IsStaged)
    (refused : c.Refuses op result) : c' = c ∧ ∃ es, Rests s es s' := by
  have nothing : ∃ es, Rests s es s := ⟨[], rfl, by simp, .nil _⟩
  have idle : c.state = .destroyed → c.resources = none := fun ended =>
    staged.resources_eq_none (by rw [ended]; rfl)
  induction t with
  | notStarted _ rest => exact ⟨rfl, _, rest⟩
  | started created =>
      cases refused with
      | ended ended => rw [created] at ended; cases ended
  | notSwitched => exact ⟨rfl, nothing⟩
  | notRaised _ rest => exact ⟨rfl, _, rest⟩
  | raised active =>
      have inactive := refused.isActive_eq_false (by simp)
      rw [active] at inactive
      cases inactive
  | lowered active =>
      have inactive := refused.isActive_eq_false (by simp)
      rw [active] at inactive
      cases inactive
  | ignored => exact ⟨rfl, nothing⟩
  | reconciled step =>
      -- A refused snapshot finds no resources, but this one used their index.
      have none : c.resources = none := by
        cases refused with
        | addresses none => exact none
        | ended ended => exact idle ended
      exact absurd none (resources_ne_none step.index)
  | prefixes =>
      cases refused with
      | ended ended => exact ⟨by rw [updatePrefixes, if_pos ended], nothing⟩
  | died _ ih =>
      refine ih ?_
      cases refused with
      | died idle => exact .link idle
      | ended ended => exact .ended ended
  | destroyedBefore => exact ⟨rfl, nothing⟩
  | destroyedUnused alive =>
      cases refused with
      | ended ended => exact absurd ended alive
  | destroyed alive =>
      cases refused with
      | ended ended => exact absurd ended alive

/-! ## The life of a controller -/

/-- An operation and what comes of it are within the life of a controller. -/
structure Evolves (c : Controller) (s : Shared (Recorded σ)) (op : Operation)
    (result : ControllerResult) (c' : Controller) (s' : Shared (Recorded σ)) : Prop where
  staged : c.resources.isSome = true ↔ c.state = .initialized ∨ c.state = .up ∨ c.state = .down
  unused : c.state = .created ∨ c.resources = none → c.inventory.addresses = []
  stage : c'.state = c.state.next op result.isOk
  /-- A start succeeds for the device of a new controller whose host grants all it needs. -/
  started : ∀ device, op = .start device → result = .ok () →
    c.state = .created ∧ device.name = c.config.interface ∧
      ∃ ifIndex, c'.resources = some ⟨device, ifIndex⟩ ∧
        s'.host.calls = s.host.calls ++ [.lookup c.config.interface (.ok ifIndex),
          .openRoutes (.ok ()), .openGroups ifIndex (.ok ())]
  /-- It fails otherwise, for the first thing that is missing. -/
  abandoned : ∀ device e, op = .start device → result = .error e →
    ∃ calls, s'.host.calls = s.host.calls ++ calls ∧ c.Abandons device e calls
  /-- A switch at an active stage succeeds exactly if the host's does, its last call. -/
  switched : ∀ up, op = .setUp up → c.state.isActive = true →
    ∃ before outcome, s'.host.calls =
        s.host.calls ++ before ++ [.setLink c.config.interface up outcome] ∧
      (up = true → before = []) ∧ result.isOk = outcome.isOk
  refused : c.Refuses op result → c' = c ∧ s'.sequence = s.sequence ∧
    ∃ log, s'.host.calls = s.host.calls ++ log ∧
      ∀ call ∈ log, (Exchange.call call).isQuiet = true

section

variable {s s' : Shared (Recorded σ)}

theorem Transition.started_calls {device : Device}
    (t : c.Transition s (.start device) (.ok ()) c' s') :
    c.state = .created ∧ device.name = c.config.interface ∧
      ∃ ifIndex, c'.resources = some ⟨device, ifIndex⟩ ∧
        s'.host.calls = s.host.calls ++ [.lookup c.config.interface (.ok ifIndex),
          .openRoutes (.ok ()), .openGroups ifIndex (.ok ())] := by
  cases t with
  | started created named rest => exact ⟨created, named, _, rfl, rest.dialogue.calls_eq⟩

theorem Transition.abandoned_calls {device : Device} {e : ControllerError}
    (t : c.Transition s (.start device) (.error e) c' s') :
    ∃ calls, s'.host.calls = s.host.calls ++ calls ∧ c.Abandons device e calls := by
  cases t with
  | notStarted reason rest =>
      refine ⟨_, ?_, reason⟩
      rw [rest.dialogue.calls_eq, Exchange.filterMap_call]

theorem Transition.switched_calls {up : Bool} (t : c.Transition s (.setUp up) result c' s')
    (active : c.state.isActive = true) :
    ∃ before outcome, s'.host.calls =
        s.host.calls ++ before ++ [.setLink c.config.interface up outcome] ∧
      (up = true → before = []) ∧ result.isOk = outcome.isOk := by
  cases t with
  | notSwitched idle => exact absurd (idle.symm.trans active) Bool.false_ne_true
  | notRaised _ rest =>
      exact ⟨[], _, by rw [List.append_nil]; exact rest.dialogue.calls_eq, fun _ => rfl, rfl⟩
  | raised _ rest =>
      exact ⟨[], _, by rw [List.append_nil]; exact rest.dialogue.calls_eq, fun _ => rfl, rfl⟩
  | @lowered ifIndex qs outcome _ _ _ strip rest =>
      refine ⟨Request.calls ifIndex s.sequence qs, outcome, ?_, nofun, ?_⟩
      · rw [rest.dialogue.calls_eq, strip.calls_eq]
        rfl
      · cases outcome <;> rfl

end

/-- **The life of a controller.** Whatever a controller has been through and whatever its host
    answers, its resources are there exactly at the active stages and nothing is mirrored without
    them, each operation leads to the next stage, and one that is refused leaves controller and
    numbers as they were and asks for neither an address nor a group. So a refusal leaves the
    addresses and groups of a kernel in memory, whatever else fails there. -/
theorem lives_by_stages (config : Config) :
    (∀ {σ : Type} [Host σ] {between : Shared (Recorded σ) → Shared (Recorded σ) → Prop}
        {start s : Shared (Recorded σ)} {c : Controller}, Reaches between config start c s →
      ∀ op, c.Evolves s op (c.apply op s).1.1 (c.apply op s).1.2 (c.apply op s).2) ∧
    ∀ {between : Shared SessionHost → Shared SessionHost → Prop} {start s : Shared SessionHost}
        {c : Controller}, Reaches between config start c s →
      ∀ op, c.Refuses op (c.apply op s).1.1 →
        (c.apply op s).2.host.kernel.addresses = s.host.kernel.addresses ∧
          (c.apply op s).2.host.kernel.groups = s.host.kernel.groups := by
  constructor
  · intro σ _ between start s c reach op
    have staged := reach.isStaged
    have t := apply_transition staged op s
    refine ⟨staged.isSome_iff, ?_, t.state_eq, ?_, ?_, ?_, ?_⟩
    · rintro (created | none)
      · exact reach.addresses_eq_nil (staged.resources_eq_none (by rw [created]; rfl))
      · exact reach.addresses_eq_nil none
    · rintro device rfl ok
      rw [ok] at t
      exact t.started_calls
    · rintro device e rfl failed
      rw [failed] at t
      exact t.abandoned_calls
    · rintro up rfl
      exact t.switched_calls
    · intro refused
      obtain ⟨same, es, rest⟩ := t.eq_of_refuses staged refused
      exact ⟨same, rest.sequence, rest.exists_calls⟩
  · intro between start s c reach op refused
    obtain ⟨-, es, rest⟩ := (apply_transition reach.isStaged op s).eq_of_refuses reach.isStaged
      refused
    exact rest.kernel_eq

/-- The link can be neither lowered nor raised: the controller is down all the same and stays so,
    and the group that it joined before stays joined. -/
theorem lives_down_of_stuck_link :
    let start : Shared SessionHost :=
      ⟨0xffffffff, ⟨.of { MemoryKernel.idle 0 with failLink := true }, []⟩⟩
    let ops : List Operation := [.start ⟨Config.defaultInterface⟩,
      .addresses [.numbered 1 true, .numberedGroup 1], .setUp false]
    let c := ((new .default).run start ops).1
    let s := ((new .default).run start ops).2
    let after := c.apply (.setUp true) s
    Reaches (fun s s' => s' = s) .default start c s ∧ c.Refuses (.setUp true) after.1.1 ∧
      c.state = .down ∧ s.sequence = 1 ∧ s.host.kernel.groups = [.numberedGroup 1] ∧
      c.Evolves s (.setUp true) after.1.1 after.1.2 after.2 ∧
      after.2.host.kernel.addresses = s.host.kernel.addresses ∧
      after.2.host.kernel.groups = s.host.kernel.groups := by
  intro start ops c s after
  have reach : Reaches (fun s s' => s' = s) .default start c s := Reaches.run ops .new
  have failed : after.1.1 =
      .error (.linkState Config.defaultInterface true (.os Errno.operationNotPermitted)) := by
    decide +kernel
  have refused : c.Refuses (.setUp true) after.1.1 := by
    rw [failed]
    exact .raise
  have down : c.state = .down := by decide +kernel
  have sequence : s.sequence = 1 := by decide +kernel
  have groups : s.host.kernel.groups = [.numberedGroup 1] := by decide +kernel
  -- From here on the run that led to this controller is of no interest.
  clear_value c s
  have kept := (lives_by_stages .default).2 reach (.setUp true) refused
  exact ⟨reach, refused, down, sequence, groups, (lives_by_stages .default).1 reach (.setUp true),
    kept.1, kept.2⟩

end Controller
end MeshLink
