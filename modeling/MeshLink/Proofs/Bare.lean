import MeshLink.Proofs.Lifecycle
import MeshLink.Proofs.Routes
set_option autoImplicit false

/-! # Bare interfaces

When nothing is mirrored. Lowering the link and destroying a started controller strip the interface,
but neither stage is bare for that alone.

A controller that is down still applies snapshots: those of addresses because it has its resources,
those of networks because it is not destroyed. So it stays bare exactly until one of them brings
something (`down_states_bare_iff`). A controller that was never started has no interface to strip,
and its destruction leaves the networks of the last snapshot (`destroyed_states`). -/

namespace MeshLink

/-- The snapshot of networks that holds after an operation. -/
def Operation.networks (known : List PrefixReport) : Operation → List PrefixReport
  | .prefixes snapshot => snapshot
  | _ => known

/-- The last snapshot of networks before the first destruction. -/
def Operation.lastNetworks (known : List PrefixReport) : List Operation → List PrefixReport
  | [] => known
  | op :: ops => if op = .destroy then known else lastNetworks (op.networks known) ops

namespace Controller

/-- Nothing is mirrored. -/
structure IsBare (c : Controller) : Prop where
  addresses : c.inventory.addresses = []
  routes : c.inventory.routes = []
  onMesh : c.onMesh = []

/-- Without orphan routes, nothing is mirrored if there are no addresses and no networks. -/
theorem Justified.isBare_iff {c : Controller} (h : c.Justified) :
    c.IsBare ↔ c.inventory.addresses = [] ∧ c.onMesh = [] := by
  constructor
  · intro bare
    exact ⟨bare.addresses, bare.onMesh⟩
  · rintro ⟨addresses, onMesh⟩
    refine ⟨addresses, List.eq_nil_iff_forall_not_mem.2 ?_, onMesh⟩
    intro x hx
    have needed := h x hx
    rw [Controller.needed, addresses, onMesh] at needed
    exact List.not_mem_nil needed

theorem justified_new (config : Config) : (new config).Justified :=
  fun _ hx => absurd hx List.not_mem_nil

theorem distinct_routes_eq_nil (c : Controller) (nets : List Net) :
    Diff.distinct (nets.map c.routeTo) = [] ↔ nets = [] := by
  cases nets with
  | nil => exact ⟨fun _ => rfl, fun _ => rfl⟩
  | cons net nets => exact ⟨fun none => absurd none (List.cons_ne_nil _ _), nofun⟩

/-! ## Snapshots that arrive while the controller is down -/

/-- An operation with these calls brings something to mirror: a snapshot of addresses one that the
    host grants, a snapshot of networks one that can be used. -/
def Brings : Operation → List Call → Prop
  | .addresses _, log => ∃ a, isGranted log a = true
  | .prefixes snapshot, _ => PrefixReport.nets snapshot ≠ []
  | _, _ => False

/-- An operation of a run: the controller before it and the calls that it makes. -/
structure Step where
  before : Controller
  operation : Operation
  calls : List Call

variable {σ : Type} [Host σ]

/-- The operations of a run. Each comes with what is shared when it starts, which may be
    anything. -/
def steps (c : Controller) : List (Shared (Recorded σ) × Operation) → List Step
  | [] => []
  | (s, op) :: run =>
    ⟨c, op, (c.apply op s).2.host.calls.drop s.host.calls.length⟩ ::
      steps (c.apply op s).1.2 run

section

variable {c c' : Controller} {s s' : Shared (Recorded σ)} {op : Operation}
  {result : ControllerResult} {log : List Call}

/-- A log grants an address exactly if one of the additions was granted. -/
theorem Reconciles.exists_isGranted_iff {snapshot : List AddressReport} {t : Reconciliation}
    (h : c.Reconciles snapshot s t s') :
    (∃ a, isGranted (t.calls s.sequence) a = true) ↔
      ∃ q ∈ t.additions, q.isGranted = true := by
  constructor
  · rintro ⟨a, granted⟩
    obtain ⟨outcome, told, accepted⟩ := List.any_eq_true.1 granted
    rw [Reconciliation.calls, answers_append, t.answers_groupCalls, List.append_nil,
      Request.answers_requests] at told
    obtain ⟨q, asked, rfl⟩ := List.mem_map.1 told
    obtain ⟨hq, about⟩ := List.mem_filter.1 asked
    have type : q.type = Netlink.MessageType.newAddress := by
      simp only [Request.isAbout, Bool.and_eq_true, decide_eq_true_eq] at about
      exact about.1
    rcases List.mem_append.1 hq with hq | hq
    · rw [Request.type, h.removals q hq] at type
      exact absurd type.symm Netlink.MessageType.newAddress_ne_delAddress
    · obtain ⟨a, time, outcome, rfl⟩ := Request.eq_addition (h.additions q hq)
      exact ⟨_, hq, accepted⟩
  · rintro ⟨q, hq, granted⟩
    exact ⟨q.address, (h.isGranted_addition hq).trans granted⟩

/-- A snapshot of addresses leaves a bare controller bare unless an addition is granted. -/
theorem Reconciles.isBare_iff {snapshot : List AddressReport} {t : Reconciliation}
    (h : c.Reconciles snapshot s t s') (bare : c.IsBare)
    (justified : (c.reconciled snapshot t).Justified) :
    (c.reconciled snapshot t).IsBare ↔ ¬ ∃ a, isGranted (t.calls s.sequence) a = true := by
  have onMesh : (c.reconciled snapshot t).onMesh = [] := by
    rw [onMesh_reconciled]
    exact bare.onMesh
  rw [justified.isBare_iff, h.exists_isGranted_iff, List.eq_nil_iff_forall_not_mem]
  constructor
  · rintro ⟨none, -⟩ ⟨q, hq, granted⟩
    exact none _ ((h.mem_granted_iff q.address).2 ⟨q, hq, granted, rfl⟩).1
  · intro refused
    refine ⟨?_, onMesh⟩
    intro a ha
    have new : a ∉ c.inventory.addresses := by
      rw [bare.addresses]
      exact List.not_mem_nil
    obtain ⟨q, hq, granted, -⟩ := (h.mem_granted_iff a).1 ⟨ha, new⟩
    exact refused ⟨q, hq, granted⟩

/-- A snapshot of networks leaves a bare controller bare unless it names one that can be used. -/
theorem updatePrefixes_isBare_iff (alive : c.state ≠ .destroyed) (snapshot : List PrefixReport)
    (bare : c.IsBare) (justified : (c.updatePrefixes snapshot).Justified) :
    (c.updatePrefixes snapshot).IsBare ↔ PrefixReport.nets snapshot = [] := by
  rw [justified.isBare_iff, addresses_updatePrefixes, (updatePrefixes_spec alive snapshot).1,
    distinct_routes_eq_nil]
  exact and_iff_right bare.addresses

/-- Where a controller is bare if it is down, an operation leads to one that is not exactly if it
    brings something to one that is down. -/
theorem Transition.bare_iff (t : c.Transition s op result c' s')
    (calls : s'.host.calls = s.host.calls ++ log) (justified : c.Justified)
    (bare : c.state = .down → c.IsBare) :
    (c'.state = .down → c'.IsBare) ↔ (c.state = .down → ¬ Brings op log) := by
  have next : c'.Justified := t.justified justified
  -- Only snapshots bring something. After all else the controller is as it was, or is stripped, or
  -- is not down.
  induction t with
  | notStarted => exact iff_of_true bare fun _ => id
  | started => exact iff_of_true nofun fun _ => id
  | notSwitched => exact iff_of_true bare fun _ => id
  | notRaised => exact iff_of_true bare fun _ => id
  | raised => exact iff_of_true nofun fun _ => id
  | lowered => exact iff_of_true (fun _ => ⟨rfl, rfl, rfl⟩) fun _ => id
  | ignored =>
      have none : log = [] := List.self_eq_append_right.1 calls
      rw [none]
      exact iff_of_true bare fun _ ⟨_, granted⟩ => Bool.false_ne_true granted
  | @reconciled snapshot t _ h =>
      have told : log = t.calls s.sequence :=
        List.append_cancel_left (calls.symm.trans h.calls_eq)
      rw [state_reconciled, told]
      exact imp_congr_right fun down => h.isBare_iff (bare down) next
  | @prefixes snapshot =>
      rw [state_updatePrefixes]
      refine imp_congr_right fun down => ?_
      have alive : c.state ≠ .destroyed := by
        rw [down]
        exact nofun
      rw [updatePrefixes_isBare_iff alive snapshot (bare down) next, Brings, not_not]
  | died _ ih => exact ih calls next
  | destroyedBefore ended =>
      exact iff_of_true (fun down => absurd (ended.symm.trans down) nofun) fun _ => id
  | destroyedUnused => exact iff_of_true nofun fun _ => id
  | destroyed => exact iff_of_true nofun fun _ => id

theorem down_states_bare_iff_of_bare (staged : c.IsStaged) (justified : c.Justified)
    (bare : c.state = .down → c.IsBare) (run : List (Shared (Recorded σ) × Operation)) :
    (∀ d ∈ c.states run, d.state = .down → d.IsBare) ↔
      ∀ x ∈ c.steps run, x.before.state = .down → ¬ Brings x.operation x.calls := by
  induction run generalizing c with
  | nil =>
      refine iff_of_true ?_ fun _ hx => absurd hx List.not_mem_nil
      intro d hd
      rw [List.mem_singleton.1 hd]
      exact bare
  | cons step run ih =>
      obtain ⟨s, op⟩ := step
      have t := apply_transition staged op s
      obtain ⟨es, dialogue⟩ := t.dialogue
      have calls := dialogue.calls_eq
      have told : (c.apply op s).2.host.calls.drop s.host.calls.length =
          es.filterMap Exchange.call? := by
        rw [calls, List.drop_left]
      have first := t.bare_iff calls justified bare
      rw [states, steps, List.forall_mem_cons, List.forall_mem_cons, told, ← first]
      obtain ⟨later, run_eq⟩ := (c.apply op s).1.2.states_eq_cons run
      constructor
      · rintro ⟨-, rest⟩
        -- The next state is the first of the rest.
        have next := rest _ (by rw [run_eq]; exact List.mem_cons_self)
        exact ⟨next, (ih (t.isStaged staged) (t.justified justified) next).1 rest⟩
      · rintro ⟨next, rest⟩
        exact ⟨bare, (ih (t.isStaged staged) (t.justified justified) next).2 rest⟩

/-- **When a lowered interface carries something.** Over operations of a new controller it is bare
    in every state in which it is down exactly if no snapshot brings something while it is down. -/
theorem down_states_bare_iff (config : Config) (run : List (Shared (Recorded σ) × Operation)) :
    (∀ c ∈ (new config).states run, c.state = .down → c.IsBare) ↔
      ∀ x ∈ (new config).steps run, x.before.state = .down → ¬ Brings x.operation x.calls :=
  down_states_bare_iff_of_bare (c := new config) rfl (justified_new config) nofun run

end

/-- The address of a snapshot that comes after the link was lowered is added and mirrored. -/
theorem address_brought_while_down :
    let start : Shared SessionHost := ⟨0, ⟨.of (.idle 0), []⟩⟩
    let ops : List Operation :=
      [.start ⟨Config.defaultInterface⟩, .setUp false, .addresses [.numbered 1 true]]
    let c := ((new .default).run start ops).1
    Reaches (fun s s' => s' = s) .default start c ((new .default).run start ops).2 ∧
      c.state = .down ∧ c.inventory.addresses = [.numbered 1] ∧ ¬ c.IsBare := by
  intro start ops c
  have addresses : c.inventory.addresses = [.numbered 1] := by decide +kernel
  refine ⟨Reaches.run ops .new, by decide +kernel, addresses, ?_⟩
  intro bare
  rw [bare.addresses] at addresses
  cases addresses

/-! ## Destroyed controllers -/

section

variable {c c' : Controller} {s s' : Shared σ} {op : Operation} {result : ControllerResult}
  {known : List PrefixReport}

/-- Of a controller that was never started, only the routes of the last snapshot of networks are
    there. -/
structure Unused (c : Controller) (known : List PrefixReport) : Prop where
  resources : c.resources = none
  addresses : c.inventory.addresses = []
  justified : c.Justified
  onMesh : c.onMesh = Diff.distinct ((PrefixReport.nets known).map c.routeTo)

theorem unused_new (config : Config) : (new config).Unused [] where
  resources := rfl
  addresses := rfl
  justified := justified_new config
  onMesh := rfl

theorem Unused.isBare_iff (h : c.Unused known) : c.IsBare ↔ PrefixReport.nets known = [] := by
  rw [h.justified.isBare_iff, h.onMesh, distinct_routes_eq_nil]
  exact and_iff_right h.addresses

/-- A controller that was never started is started, or destroyed as it is, or heeds a snapshot of
    networks and nothing else. -/
theorem Transition.of_unused (t : c.Transition s op result c' s') (created : c.state = .created)
    (unused : c.Unused known) :
    c'.state = .initialized ∨
      (op = .destroy ∧ c'.state = .destroyed ∧ c'.Unused known) ∨
      (op ≠ .destroy ∧ c'.state = .created ∧ c'.Unused (op.networks known)) := by
  have inactive : c.state.isActive = false := by
    rw [created]
    rfl
  have justified := t.justified unused.justified
  induction t with
  | notStarted => exact .inr (.inr ⟨nofun, created, unused⟩)
  | started => exact .inl rfl
  | notSwitched => exact .inr (.inr ⟨nofun, created, unused⟩)
  | notRaised active => exact absurd (inactive.symm.trans active) Bool.false_ne_true
  | raised active => exact absurd (inactive.symm.trans active) Bool.false_ne_true
  | lowered active => exact absurd (inactive.symm.trans active) Bool.false_ne_true
  | ignored => exact .inr (.inr ⟨nofun, created, unused⟩)
  | reconciled h => exact absurd unused.resources (resources_ne_none h.index)
  | @prefixes snapshot =>
      have alive : c.state ≠ .destroyed := by
        rw [created]
        exact nofun
      have heeded : (c.updatePrefixes snapshot).Unused snapshot := {
        resources := (resources_updatePrefixes c snapshot).trans unused.resources
        addresses := (addresses_updatePrefixes c snapshot).trans unused.addresses
        justified := justified
        onMesh := by
          rw [(updatePrefixes_spec alive snapshot).1, updatePrefixes_eq]
          rfl }
      exact .inr (.inr ⟨nofun, (state_updatePrefixes c snapshot).trans created, heeded⟩)
  | died _ ih =>
      rcases ih justified with started | ⟨never, -⟩ | ⟨-, still⟩
      · exact .inl started
      · cases never
      · exact .inr (.inr ⟨nofun, still⟩)
  | destroyedBefore ended => exact absurd (created.symm.trans ended) nofun
  | destroyedUnused =>
      exact .inr (.inl ⟨rfl, rfl, unused.resources, unused.addresses, justified, unused.onMesh⟩)
  | destroyed _ strip => exact absurd unused.resources (resources_ne_none strip.index)

/-- It was started, and if it was destroyed since then it was stripped. -/
def WasStarted (c : Controller) : Prop :=
  c.state ≠ .created ∧ (c.state = .destroyed → c.IsBare)

theorem WasStarted.of_active (active : c.state.isActive = true) : c.WasStarted := by
  constructor
  · intro created
    rw [created] at active
    cases active
  · intro ended
    rw [ended] at active
    cases active

/-- Once it was started, a controller is stripped when it is destroyed. -/
theorem Transition.wasStarted (t : c.Transition s op result c' s') (staged : c.IsStaged)
    (h : c.WasStarted) : c'.WasStarted := by
  induction t with
  | started => exact .of_active rfl
  | raised => exact .of_active rfl
  | lowered => exact .of_active rfl
  | reconciled step =>
      rw [WasStarted, state_reconciled]
      refine ⟨h.1, fun ended => ?_⟩
      have none := staged.resources_eq_none (by rw [ended]; rfl)
      exact absurd none (resources_ne_none step.index)
  | @prefixes snapshot =>
      by_cases ended : c.state = .destroyed
      · rw [updatePrefixes, if_pos ended]
        exact h
      · rw [WasStarted, state_updatePrefixes]
        exact ⟨h.1, fun ended' => absurd ended' ended⟩
  | died _ ih => exact ih
  | destroyedUnused alive none =>
      -- Without resources it could only be new or at its end.
      have inactive : c.state.isActive = false := by
        rw [← staged, none]
        rfl
      cases stage : c.state with
      | created => exact absurd stage h.1
      | destroyed => exact absurd stage alive
      | _ =>
          rw [stage] at inactive
          cases inactive
  | destroyed =>
      refine ⟨?_, fun _ => ⟨rfl, rfl, rfl⟩⟩
      intro created
      cases created
  | _ => exact h

theorem Transition.eq_of_destroyed (t : c.Transition s op result c' s') (staged : c.IsStaged)
    (ended : c.state = .destroyed) : c' = c :=
  (t.eq_of_refuses staged (.ended ended)).1

/-- What every transition keeps holds in all states if it holds in the first one. -/
theorem states_invariant {P : Controller → Prop} (staged : c.IsStaged) (initial : P c)
    (step : ∀ {c : Controller} {s : Shared σ} {op : Operation} {result : ControllerResult}
      {c' : Controller} {s' : Shared σ}, c.Transition s op result c' s' → c.IsStaged → P c → P c')
    {run : List (Shared σ × Operation)} {d : Controller} (hd : d ∈ c.states run) : P d := by
  induction run generalizing c with
  | nil =>
      rw [List.mem_singleton.1 hd]
      exact initial
  | cons next run ih =>
      have t := apply_transition staged next.2 next.1
      rcases List.mem_cons.1 hd with rfl | hd
      · exact initial
      · exact ih (t.isStaged staged) (step t staged initial) hd

theorem eq_of_mem_states (staged : c.IsStaged) (ended : c.state = .destroyed)
    {run : List (Shared σ × Operation)} {d : Controller} (hd : d ∈ c.states run) : d = c := by
  refine states_invariant (P := fun d => d = c) staged rfl ?_ hd
  rintro _ _ _ _ c' _ t staged rfl
  exact t.eq_of_destroyed staged ended

theorem destroyed_states_of_unused (staged : c.IsStaged) (created : c.state = .created)
    (unused : c.Unused known) {run : List (Shared σ × Operation)} {d : Controller}
    (hd : d ∈ c.states run) (ended : d.state = .destroyed) :
    d.inventory.addresses = [] ∧
      (d.IsBare ↔ (∃ e ∈ c.states run, e.resources.isSome = true) ∨
        PrefixReport.nets (Operation.lastNetworks known (run.map Prod.snd)) = []) := by
  induction run generalizing c known with
  | nil =>
      rw [List.mem_singleton.1 hd, created] at ended
      cases ended
  | cons step run ih =>
      obtain ⟨s, op⟩ := step
      have t := apply_transition staged op s
      have staged' := t.isStaged staged
      rcases List.mem_cons.1 hd with rfl | hd
      · rw [created] at ended
        cases ended
      obtain ⟨later, run_eq⟩ := (c.apply op s).1.2.states_eq_cons run
      have first : (c.apply op s).1.2 ∈ (c.apply op s).1.2.states run := by
        rw [run_eq]
        exact List.mem_cons_self
      have held : (∃ e ∈ c.states ((s, op) :: run), e.resources.isSome = true) ↔
          ∃ e ∈ (c.apply op s).1.2.states run, e.resources.isSome = true := by
        simp [states, unused.resources]
      rw [held, List.map_cons, Operation.lastNetworks]
      rcases t.of_unused created unused with started | ⟨rfl, destroyed, rest⟩ | ⟨other, still, rest⟩
      -- A controller that was started once is stripped at its end.
      · have was : d.WasStarted := states_invariant (P := WasStarted) staged'
          (.of_active (by rw [started]; rfl)) Transition.wasStarted hd
        have bare : d.IsBare := was.2 ended
        have isSome := staged'.isSome_iff.2 (.inl started)
        exact ⟨bare.addresses, iff_of_true bare (.inl ⟨_, first, isSome⟩)⟩
      · -- Whatever comes later, the controller stays as it ended.
        have none : ¬ ∃ e ∈ (c.apply .destroy s).1.2.states run, e.resources.isSome = true := by
          rintro ⟨e, he, isSome⟩
          rw [eq_of_mem_states staged' destroyed he, rest.resources] at isSome
          cases isSome
        rw [eq_of_mem_states staged' destroyed hd, if_pos rfl, rest.isBare_iff]
        exact ⟨rest.addresses, (or_iff_right none).symm⟩
      · rw [if_neg other]
        exact ih staged' still rest hd

/-- **What a destroyed controller holds.** Over operations of a new controller, whatever its host
    answers, it holds no resources and no addresses once it is destroyed. It mirrors nothing at all
    exactly if it had resources before, or else the last snapshot of networks before its end named
    none that can be used. -/
theorem destroyed_states (config : Config) {run : List (Shared σ × Operation)} {c : Controller}
    (hc : c ∈ (new config).states run) (ended : c.state = .destroyed) :
    c.resources = none ∧ c.inventory.addresses = [] ∧
      (c.IsBare ↔ (∃ d ∈ (new config).states run, d.resources.isSome = true) ∨
        PrefixReport.nets (Operation.lastNetworks [] (run.map Prod.snd)) = []) := by
  have staged : c.IsStaged :=
    states_invariant (P := IsStaged) (c := new config) rfl rfl (fun t _ => t.isStaged) hc
  have idle : c.state.isActive = false := by
    rw [ended]
    rfl
  exact ⟨staged.resources_eq_none idle,
    destroyed_states_of_unused (c := new config) rfl rfl (unused_new config) hc ended⟩

end

/-- A network comes before the start; destruction takes it away again. -/
theorem destroyed_states_of_started :
    let s : Shared MemoryKernel := ⟨0, .idle 0⟩
    let run : List (Shared MemoryKernel × Operation) :=
      [(s, .prefixes [⟨[0xfe], 8⟩]), (s, .start ⟨Config.defaultInterface⟩), (s, .destroy)]
    let c : Controller := { new .default with state := .destroyed }
    c ∈ (new .default).states run ∧ c.state = .destroyed ∧ c.resources = none ∧
      c.inventory.addresses = [] ∧
      (c.IsBare ↔ (∃ d ∈ (new .default).states run, d.resources.isSome = true) ∨
        PrefixReport.nets (Operation.lastNetworks [] (run.map Prod.snd)) = []) := by
  intro s run c
  have hc : c ∈ (new .default).states run := by decide +kernel
  exact ⟨hc, rfl, destroyed_states .default hc rfl⟩

/-- A network that comes to a controller without resources outlasts its destruction. -/
theorem network_outlasts_destruction :
    let start : Shared SessionHost := ⟨0, ⟨.of (.idle 0), []⟩⟩
    let ops : List Operation := [.prefixes [⟨[0xfd, 0x22], 64⟩], .destroy]
    let c := ((new .default).run start ops).1
    Reaches (fun s s' => s' = s) .default start c ((new .default).run start ops).2 ∧
      c.state = .destroyed ∧ c.inventory.routes.length = 1 ∧ c.onMesh.length = 1 ∧
      ¬ c.IsBare := by
  intro start ops c
  have onMesh : c.onMesh.length = 1 := by decide +kernel
  refine ⟨Reaches.run ops .new, by decide +kernel, by decide +kernel, onMesh, ?_⟩
  intro bare
  rw [bare.onMesh] at onMesh
  cases onMesh

end Controller
end MeshLink
