import MeshLink.Proofs.Inventory
set_option autoImplicit false

/-! # Transitions of a controller

Everything an operation can do, said once. A `Transition` relates a controller and what it shares
before an operation to the result, the controller and what it shares afterwards, with the guards
of each case and the dialogue it has with the host. The host is any host, so a transition covers
every outcome of every call.

`apply_transition` says that there are no other cases. It needs the one fact about the life of a
controller that its code relies on: the resources are there exactly while the stage is an active
one (`IsStaged`), which every transition keeps (`Transition.isStaged`). -/

namespace MeshLink

/-- How the application of a snapshot of addresses went. -/
structure Reconciliation where
  /-- The index that every call carries. -/
  ifIndex : UInt32
  /-- What the clock showed at the start. -/
  now : Int64
  removals : List Request
  additions : List Request
  /-- The groups that were left, with the outcomes. -/
  leaves : List (Ipv6 × CallResult)
  /-- The groups that were joined, with the outcomes. -/
  joins : List (Ipv6 × CallResult)

namespace Reconciliation

/-- The requests about addresses in their order. -/
def requests (t : Reconciliation) : List Request :=
  t.removals ++ t.additions

/-- The calls about groups in their order. -/
def groupCalls (t : Reconciliation) : List Call :=
  t.leaves.map (fun l => .leave l.1 t.ifIndex l.2) ++ t.joins.map fun j => .join j.1 t.ifIndex j.2

/-- What the host sees, the first request having the given number. -/
def dialogue (t : Reconciliation) (seq : UInt32) : List Exchange :=
  .clock t.now :: Request.dialogue t.ifIndex seq t.requests ++ t.groupCalls.map .call

/-- The calls made, the first request having the given number. -/
def calls (t : Reconciliation) (seq : UInt32) : List Call :=
  Request.calls t.ifIndex seq t.requests ++ t.groupCalls

theorem filterMap_dialogue (t : Reconciliation) (seq : UInt32) :
    (t.dialogue seq).filterMap Exchange.call? = t.calls seq := by
  rw [calls, ← Request.filterMap_dialogue]
  show (Request.dialogue t.ifIndex seq t.requests ++ t.groupCalls.map Exchange.call).filterMap _ = _
  rw [List.filterMap_append, Exchange.filterMap_call]

end Reconciliation

namespace Controller

/-- The controller with everything taken off its interface. -/
def stripped (c : Controller) : Controller :=
  { c with
    inventory := { c.inventory with addresses := [], routes := [] }
    onMesh := [] }

/-- The result of a switch of the link that the host answers in a way. -/
def linkResult (c : Controller) (up : Bool) : CallResult → ControllerResult
  | .ok () => .ok ()
  | .error e => .error (.linkState c.config.interface up e)

/-- The addresses that a snapshot asks for at a time. -/
def desired (snapshot : List AddressReport) (now : Int64) : List LinkAddress :=
  Desired.addresses (AddressReport.entries snapshot) now

/-- The groups that a snapshot asks for. -/
def desiredGroups (snapshot : List AddressReport) : List Ipv6 :=
  Desired.groups (AddressReport.entries snapshot)

variable {σ : Type} [Host σ]

/-- A snapshot is applied in a way: requests and group calls are the differences from what was
    remembered, in order, and the host answers as they say. -/
structure Reconciles (c : Controller) (snapshot : List AddressReport) (s : Shared σ)
    (t : Reconciliation) (s' : Shared σ) : Prop where
  index : c.ifIndex = some t.ifIndex
  removed : t.removals.map Request.address =
    Diff.without c.inventory.addresses (desired snapshot t.now)
  added : t.additions.map Request.address =
    Diff.without (desired snapshot t.now) c.inventory.addresses
  removals : ∀ q ∈ t.removals, q.isRemoval = true
  additions : ∀ q ∈ t.additions, q.isRemoval = false
  left : t.leaves.map Prod.fst = Diff.without c.groups (desiredGroups snapshot)
  joined : t.joins.map Prod.fst = Diff.without (desiredGroups snapshot) c.groups
  clock : (Host.now s.host).1 = t.now
  sequence : s'.sequence = s.sequence + UInt32.ofNat t.requests.length
  dialogue : Dialogue s.host (t.dialogue s.sequence) s'.host

/-- The controller after a reconciliation. -/
def reconciled (c : Controller) (snapshot : List AddressReport) (t : Reconciliation) :
    Controller :=
  { c.after t.requests with groups := Diff.distinct (desiredGroups snapshot) }

/-- All that is mirrored is asked to be removed, in order. -/
structure Strips (c : Controller) (ifIndex : UInt32) (s : Shared σ) (qs : List Request)
    (s' : Shared σ) : Prop where
  index : c.ifIndex = some ifIndex
  removed : qs.map Request.address = c.inventory.addresses
  removals : ∀ q ∈ qs, q.isRemoval = true
  issues : Issues ifIndex s qs s'

/-- The shared part moves on without a request: the exchanges are about neither addresses nor
    groups, and no number is taken. -/
structure Rests (s : Shared σ) (es : List Exchange) (s' : Shared σ) : Prop where
  sequence : s'.sequence = s.sequence
  quiet : ∀ e ∈ es, e.isQuiet = true
  dialogue : Dialogue s.host es s'.host

/-- A start is given up with an error after these calls, by the first thing that it cannot get.
    What it has got by then is closed, the device included. -/
inductive Abandons (c : Controller) (device : Device) : ControllerError → List Call → Prop
  | state :
      c.state ≠ .created →
      Abandons c device (.invalidState .initialization c.state) [.close .device]
  | name :
      c.state = .created → device.name ≠ c.config.interface →
      Abandons c device (.invalidInterfaceName device.name) [.close .device]
  | index {e : CallError} :
      c.state = .created → device.name = c.config.interface →
      Abandons c device (.interfaceIndex c.config.interface e)
        [.lookup c.config.interface (.error e), .close .device]
  | routes {ifIndex : UInt32} {e : CallError} :
      c.state = .created → device.name = c.config.interface →
      Abandons c device (.routeSocket e)
        [.lookup c.config.interface (.ok ifIndex), .openRoutes (.error e), .close .device]
  | groups {ifIndex : UInt32} {e : CallError} :
      c.state = .created → device.name = c.config.interface →
      Abandons c device (.multicastSocket c.config.interface e)
        [.lookup c.config.interface (.ok ifIndex), .openRoutes (.ok ()),
          .openGroups ifIndex (.error e), .close .routes, .close .device]

/-- What an operation can do. -/
inductive Transition (c : Controller) (s : Shared σ) :
    Operation → ControllerResult → Controller → Shared σ → Prop
  /-- The controller does not start; it stays as it was. -/
  | notStarted {device : Device} {e : ControllerError} {calls : List Call} {s' : Shared σ} :
      c.Abandons device e calls →
      Rests s (calls.map .call) s' →
      Transition c s (.start device) (.error e) c s'
  | started {device : Device} {ifIndex : UInt32} {s' : Shared σ} :
      c.state = .created →
      device.name = c.config.interface →
      Rests s [.call (.lookup c.config.interface (.ok ifIndex)), .call (.openRoutes (.ok ())),
        .call (.openGroups ifIndex (.ok ()))] s' →
      Transition c s (.start device) (.ok ())
        { c with state := .initialized, resources := some ⟨device, ifIndex⟩ } s'
  /-- The link cannot be switched at this stage. -/
  | notSwitched {up : Bool} :
      c.state.isActive = false →
      Transition c s (.setUp up) (.error (.invalidState .linkChange c.state)) c s
  | notRaised {e : CallError} {s' : Shared σ} :
      c.state.isActive = true →
      Rests s [.call (.setLink c.config.interface true (.error e))] s' →
      Transition c s (.setUp true) (.error (.linkState c.config.interface true e)) c s'
  | raised {s' : Shared σ} :
      c.state.isActive = true →
      Rests s [.call (.setLink c.config.interface true (.ok ()))] s' →
      Transition c s (.setUp true) (.ok ()) { c with state := .up } s'
  /-- The interface is stripped and the link is taken down, whatever comes of it. -/
  | lowered {ifIndex : UInt32} {qs : List Request} {outcome : CallResult} {s' s'' : Shared σ} :
      c.state.isActive = true →
      c.Strips ifIndex s qs s' →
      Rests s' [.call (.setLink c.config.interface false outcome)] s'' →
      Transition c s (.setUp false) (c.linkResult false outcome)
        { c.stripped with state := .down } s''
  /-- Without resources a snapshot of addresses is passed over. -/
  | ignored {snapshot : List AddressReport} :
      c.resources = none → Transition c s (.addresses snapshot) (.ok ()) c s
  | reconciled {snapshot : List AddressReport} {t : Reconciliation} {s' : Shared σ} :
      c.Reconciles snapshot s t s' →
      Transition c s (.addresses snapshot) (.ok ()) (c.reconciled snapshot t) s'
  | prefixes {snapshot : List PrefixReport} :
      Transition c s (.prefixes snapshot) (.ok ()) (c.updatePrefixes snapshot) s
  /-- The end of the mesh daemon takes the link down; a refusal is not told. -/
  | died {result : ControllerResult} {c' : Controller} {s' : Shared σ} :
      Transition c s (.setUp false) result c' s' → Transition c s .daemonDied (.ok ()) c' s'
  | destroyedBefore :
      c.state = .destroyed → Transition c s .destroy (.ok ()) c s
  /-- A controller that never held anything ends as it is. -/
  | destroyedUnused :
      c.state ≠ .destroyed → c.resources = none →
      Transition c s .destroy (.ok ()) { c with state := .destroyed } s
  | destroyed {ifIndex : UInt32} {qs : List Request} {s' s'' : Shared σ} :
      c.state ≠ .destroyed →
      c.Strips ifIndex s qs s' →
      Rests s' [.call (.close .device), .call (.close .routes), .call (.close .groups)] s'' →
      Transition c s .destroy (.ok ())
        { c.stripped with resources := none, state := .destroyed } s''

/-! ## Resting -/

theorem Rests.append {s s' s'' : Shared σ} {es fs : List Exchange} (first : Rests s es s')
    (second : Rests s' fs s'') : Rests s (es ++ fs) s'' where
  sequence := second.sequence.trans first.sequence
  quiet := by
    intro e he
    rcases List.mem_append.1 he with he | he
    · exact first.quiet e he
    · exact second.quiet e he
  dialogue := first.dialogue.append second.dialogue

theorem Rests.single (e : Exchange) {s : Shared σ} {h : σ} (quiet : e.isQuiet = true)
    (leads : e.Leads s.host h) : Rests s [e] { s with host := h } where
  sequence := rfl
  quiet := by
    intro f hf
    rw [List.mem_singleton.1 hf]
    exact quiet
  dialogue := .single leads

theorem Strips.calls_eq {c : Controller} {s s' : Shared (Recorded σ)} {ifIndex : UInt32}
    {qs : List Request} (strip : c.Strips ifIndex s qs s') :
    s'.host.calls = s.host.calls ++ Request.calls ifIndex s.sequence qs := by
  rw [strip.issues.dialogue.calls_eq, Request.filterMap_dialogue]

/-- Giving up the start closes handles and does nothing else. -/
theorem abandon_spec (c : Controller) (held : List Handle) (e : ControllerError) (s : Shared σ) :
    (c.abandon held e s).1 = (.error e, c) ∧
      Rests s ((held.map Call.close).map .call) (c.abandon held e s).2 := by
  refine ⟨rfl, ?_⟩
  show Rests s _ ((held.forM fun h => LinkM.onHost (Host.close h)) s).2
  induction held generalizing s with
  | nil => exact ⟨rfl, by simp, .nil _⟩
  | cons handle held ih =>
      have close : Rests s [.call (.close handle)]
          { s with host := (Host.close handle s.host).2 } := .single _ rfl rfl
      exact close.append (ih _)

/-! ## Loops over groups -/

/-- A loop of group calls makes one call for each group, and takes no number. -/
theorem forM_spec (note : Ipv6 → CallResult → Call) {round : Ipv6 → LinkM σ Unit}
    (spec : ∀ (g : Ipv6) (s : Shared σ), ∃ outcome, (round g s).2.sequence = s.sequence ∧
      Exchange.Leads (.call (note g outcome)) s.host (round g s).2.host)
    (gs : List Ipv6) (s : Shared σ) :
    ∃ ls : List (Ipv6 × CallResult), ls.map Prod.fst = gs ∧
      (gs.forM round s).2.sequence = s.sequence ∧
      Dialogue s.host ((ls.map fun l => note l.1 l.2).map Exchange.call)
        (gs.forM round s).2.host := by
  induction gs generalizing s with
  | nil => exact ⟨[], rfl, rfl, .nil _⟩
  | cons g gs ih =>
      obtain ⟨outcome, hseq, leads⟩ := spec g s
      obtain ⟨ls, rfl, hseqs, rest⟩ := ih (round g s).2
      exact ⟨(g, outcome) :: ls, rfl, hseqs.trans hseq, .cons leads rest⟩

theorem forM_leaveGroup {c : Controller} {r : Resources} (hr : c.resources = some r)
    (gs : List Ipv6) (s : Shared σ) :
    ∃ ls : List (Ipv6 × CallResult), ls.map Prod.fst = gs ∧
      (gs.forM c.leaveGroup s).2.sequence = s.sequence ∧
      Dialogue s.host ((ls.map fun l => Call.leave l.1 r.ifIndex l.2).map Exchange.call)
        (gs.forM c.leaveGroup s).2.host := by
  refine forM_spec (fun g => .leave g r.ifIndex) (fun g s => ?_) gs s
  rw [leaveGroup, hr]
  exact ⟨(Host.leaveGroup g r.ifIndex s.host).1, rfl, rfl⟩

theorem forM_joinGroup {c : Controller} {r : Resources} (hr : c.resources = some r)
    (gs : List Ipv6) (s : Shared σ) :
    ∃ ls : List (Ipv6 × CallResult), ls.map Prod.fst = gs ∧
      (gs.forM c.joinGroup s).2.sequence = s.sequence ∧
      Dialogue s.host ((ls.map fun l => Call.join l.1 r.ifIndex l.2).map Exchange.call)
        (gs.forM c.joinGroup s).2.host := by
  refine forM_spec (fun g => .join g r.ifIndex) (fun g s => ?_) gs s
  rw [joinGroup, hr]
  exact ⟨(Host.joinGroup g r.ifIndex s.host).1, rfl, rfl⟩

/-! ## The operations one by one -/

variable {r : Resources} {c : Controller}

theorem ifIndex_eq_some (hr : c.resources = some r) : c.ifIndex = some r.ifIndex := by
  rw [ifIndex, hr]
  rfl

theorem stripped_eq {qs : List Request} (h : ∀ q ∈ qs, q.isRemoval = true)
    (all : qs.map Request.address = c.inventory.addresses) :
    { (c.after qs).inventory.routes.foldl forgetRoute (c.after qs) with onMesh := [] } =
      c.stripped := by
  have routes : (c.after qs).inventory.routes.filter (· ∉ (c.after qs).inventory.routes) = [] :=
    List.filter_eq_nil_iff.2 fun x hx => by simp [hx]
  rw [foldl_forgetRoute, routes, after_eq, addresses_after_all h all, stripped]

theorem strip_spec (hr : c.resources = some r) (s : Shared σ) :
    ∃ qs : List Request, (c.strip s).1 = c.stripped ∧ c.Strips r.ifIndex s qs (c.strip s).2 := by
  obtain ⟨qs, all, hqs, hc, issues⟩ := foldlM_removeAddress hr c.inventory.addresses s
  have run : c.strip s =
      ({ (c.inventory.addresses.foldlM removeAddress c s).1.inventory.routes.foldl forgetRoute
          (c.inventory.addresses.foldlM removeAddress c s).1 with onMesh := [] },
        (c.inventory.addresses.foldlM removeAddress c s).2) := rfl
  refine ⟨qs, ?_, ifIndex_eq_some hr, all, hqs, ?_⟩
  · rw [run, hc]
    exact stripped_eq hqs all
  · rw [run]
    exact issues

/-- Raising the link is one call, which counts only if it succeeds. -/
theorem raise_transition (active : c.state.isActive = true) (s : Shared σ) :
    c.Transition s (.setUp true) (c.setUp true s).1.1 (c.setUp true s).1.2 (c.setUp true s).2 := by
  rcases h : Host.setLink c.config.interface true s.host with ⟨e | u, h₁⟩
  · have run : c.setUp true s =
        ((.error (.linkState c.config.interface true e), c), { s with host := h₁ }) := by
      simp only [setUp, active, LinkM.bind_run, LinkM.pure_run, LinkM.onHost_run, h, Bool.not_true,
        Bool.false_eq_true, if_false, if_true]
    rw [run]
    exact .notRaised active (.single _ rfl h)
  · have run : c.setUp true s = ((.ok (), { c with state := .up }), { s with host := h₁ }) := by
      simp only [setUp, active, LinkM.bind_run, LinkM.pure_run, LinkM.onHost_run, h, Bool.not_true,
        Bool.false_eq_true, if_false, if_true]
    rw [run]
    exact .raised active (.single _ rfl h)

/-- Lowering the link strips the interface and is one call, whatever comes of it. -/
theorem lower_transition (hr : c.resources = some r) (active : c.state.isActive = true)
    (s : Shared σ) :
    c.Transition s (.setUp false) (c.setUp false s).1.1 (c.setUp false s).1.2
      (c.setUp false s).2 := by
  obtain ⟨qs, hc, strips⟩ := strip_spec hr s
  generalize hs : c.strip s = stripping at hc strips
  rcases h : Host.setLink c.config.interface false stripping.2.host with ⟨outcome, h₁⟩
  have run : c.setUp false s = ((c.linkResult false outcome, { c.stripped with state := .down }),
      { stripping.2 with host := h₁ }) := by
    have kept : c.stripped.config = c.config := rfl
    cases outcome <;>
      simp only [setUp, active, LinkM.bind_run, LinkM.pure_run, LinkM.onHost_run, hs, hc, h, kept,
        linkResult, Bool.not_true, Bool.false_eq_true, if_false]
  rw [run]
  exact .lowered active strips (.single _ rfl h)

theorem setUp_transition (staged : c.resources.isSome = c.state.isActive) (up : Bool)
    (s : Shared σ) :
    c.Transition s (.setUp up) (c.setUp up s).1.1 (c.setUp up s).1.2 (c.setUp up s).2 := by
  cases active : c.state.isActive with
  | false =>
      have run : c.setUp up s = ((.error (.invalidState .linkChange c.state), c), s) := by
        simp only [setUp, active, LinkM.pure_run, Bool.not_false, if_true]
      rw [run]
      exact .notSwitched active
  | true =>
      obtain ⟨r, hr⟩ := Option.isSome_iff_exists.1 (staged.trans active)
      cases up with
      | true => exact raise_transition active s
      | false => exact lower_transition hr active s

theorem destroy_transition (s : Shared σ) :
    c.Transition s .destroy (.ok ()) (c.destroy s).1 (c.destroy s).2 := by
  by_cases ended : c.state = .destroyed
  · have run : c.destroy s = (c, s) := by
      simp only [destroy, if_pos ended, LinkM.pure_run]
    rw [run]
    exact .destroyedBefore ended
  · cases hr : c.resources with
    | none =>
        have run : c.destroy s = ({ c with state := .destroyed }, s) := by
          simp only [destroy, if_neg ended, release, hr, Option.isSome_none, LinkM.bind_run,
            LinkM.pure_run, Bool.false_eq_true, if_false]
        rw [run]
        exact .destroyedUnused ended hr
    | some r =>
        obtain ⟨qs, hc, strips⟩ := strip_spec hr s
        generalize hs : c.strip s = stripping at hc strips
        have kept : stripping.1.resources = some r := by rw [hc]; exact hr
        have closes : ∀ (handle : Handle) (s : Shared σ), Rests s [.call (.close handle)]
            { s with host := (Host.close handle s.host).2 } := fun _ _ => .single _ rfl rfl
        have run : c.destroy s =
            ({ c.stripped with resources := none, state := .destroyed },
              { stripping.2 with host := (Host.close .groups
                (Host.close .routes (Host.close .device stripping.2.host).2).2).2 }) := by
          simp only [destroy, if_neg ended, release, hr, hs, Option.isSome_some, LinkM.bind_run,
            LinkM.pure_run, LinkM.onHost_run, if_true, kept]
          rw [hc]
        rw [run]
        exact .destroyed ended strips
          ((closes .device _).append ((closes .routes _).append (closes .groups _)))

theorem updateAddresses_transition (snapshot : List AddressReport) (s : Shared σ) :
    c.Transition s (.addresses snapshot) (.ok ()) (c.updateAddresses snapshot s).1
      (c.updateAddresses snapshot s).2 := by
  cases hr : c.resources with
  | none =>
      have run : c.updateAddresses snapshot s = (c, s) := by
        simp only [updateAddresses, hr, Option.isNone_none, if_true, LinkM.pure_run]
      rw [run]
      exact .ignored hr
  | some r =>
      let read := Host.now s.host
      let wanted := desired snapshot read.1
      let groups := desiredGroups snapshot
      -- The four loops one after another, each on what the one before it has left.
      obtain ⟨ps, removed, hps, hc₁, issues₁⟩ := foldlM_removeAddress hr
        (Diff.without c.inventory.addresses wanted) { s with host := read.2 }
      generalize h₁ : (Diff.without c.inventory.addresses wanted).foldlM removeAddress c
        { s with host := read.2 } = first at hc₁ issues₁
      have hr₁ : first.1.resources = some r := by rw [hc₁, resources_after, hr]
      obtain ⟨qs, added, hqs, hc₂, issues₂⟩ := foldlM_addAddress hr₁
        (Diff.without wanted c.inventory.addresses) first.2
      generalize h₂ : (Diff.without wanted c.inventory.addresses).foldlM addAddress first.1
        first.2 = second at hc₂ issues₂
      have done : second.1 = c.after (ps ++ qs) := by rw [hc₂, hc₁, after_append]
      have hr₂ : second.1.resources = some r := by rw [done, resources_after, hr]
      have kept : second.1.groups = c.groups := by rw [done, after_eq]
      obtain ⟨ls, left, hs₃, leaves⟩ := forM_leaveGroup hr₂ (Diff.without c.groups groups) second.2
      generalize h₃ : (Diff.without c.groups groups).forM second.1.leaveGroup second.2 = third
        at hs₃ leaves
      obtain ⟨js, joined, hs₄, joins⟩ := forM_joinGroup hr₂ (Diff.without groups c.groups) third.2
      generalize h₄ : (Diff.without groups c.groups).forM second.1.joinGroup third.2 = fourth
        at hs₄ joins
      have run : c.updateAddresses snapshot s =
          ({ c.after (ps ++ qs) with groups := Diff.distinct groups }, fourth.2) := by
        have asked : Desired.addresses (AddressReport.entries snapshot) read.1 = wanted := rfl
        have askedGroups : Desired.groups (AddressReport.entries snapshot) = groups := rfl
        simp only [updateAddresses, hr, Option.isNone_some, Bool.false_eq_true, if_false,
          LinkM.bind_run, LinkM.pure_run, LinkM.onHost_run, Diff.between]
        rw [asked, askedGroups, h₁, h₂, kept, h₃, h₄, done]
      rw [run]
      refine .reconciled (t := ⟨r.ifIndex, read.1, ps, qs, ls, js⟩) ⟨ifIndex_eq_some hr, removed,
        added, hps, hqs, left, joined, rfl, ?_, ?_⟩
      · rw [hs₄, hs₃]
        exact (issues₁.append issues₂).sequence
      · have requests := (issues₁.append issues₂).dialogue
        rw [Reconciliation.dialogue, Reconciliation.groupCalls, List.map_append]
        exact .cons rfl (requests.append (leaves.append joins))

/-- A start is refused, or fails at the first resource it cannot get, or goes through. -/
theorem start_transition (device : Device) (s : Shared σ) :
    c.Transition s (.start device) (c.start device s).1.1 (c.start device s).1.2
      (c.start device s).2 := by
  -- Whatever was asked before, giving up leaves the controller as it was.
  have givesUp : ∀ (calls : List Call) (held : List Handle) {e : ControllerError} {s' : Shared σ},
      Rests s (calls.map .call) s' → c.Abandons device e (calls ++ held.map .close) →
      c.start device s = c.abandon held e s' →
      c.Transition s (.start device) (c.start device s).1.1 (c.start device s).1.2
        (c.start device s).2 := by
    intro calls held e s' before reason run
    obtain ⟨hc, rest⟩ := c.abandon_spec held e s'
    rw [run, hc]
    refine .notStarted reason ?_
    rw [List.map_append]
    exact before.append rest
  by_cases created : c.state = .created
  swap
  · refine givesUp [] [.device] ⟨rfl, by simp, .nil _⟩ (.state created) ?_
    simp only [start, ne_eq, created, not_false_eq_true, if_true]
  by_cases named : device.name = c.config.interface
  swap
  · refine givesUp [] [.device] ⟨rfl, by simp, .nil _⟩ (.name created named) ?_
    simp only [start, ne_eq, created, named, not_true_eq_false, not_false_eq_true, if_false,
      if_true]
  rcases hi : Host.interfaceIndex c.config.interface s.host with ⟨e | ifIndex, h₁⟩
  · have refused : Rests s [.call (.lookup c.config.interface (.error e))] { s with host := h₁ } :=
      .single _ rfl hi
    refine givesUp [.lookup _ _] [.device] refused (.index created named) ?_
    simp only [start, ne_eq, created, named, not_true_eq_false, if_false, LinkM.bind_run,
      LinkM.onHost_run, hi]
  have looked : Rests s [.call (.lookup c.config.interface (.ok ifIndex))] { s with host := h₁ } :=
    .single _ rfl hi
  rcases hr : Host.openRoutes h₁ with ⟨e | u, h₂⟩
  · have refused : Rests { s with host := h₁ } [.call (.openRoutes (.error e))]
        { s with host := h₂ } := .single _ rfl hr
    refine givesUp [.lookup _ _, .openRoutes _] [.device] (looked.append refused)
      (.routes created named) ?_
    simp only [start, ne_eq, created, named, not_true_eq_false, if_false, LinkM.bind_run,
      LinkM.onHost_run, hi, hr]
  have opened : Rests { s with host := h₁ } [.call (.openRoutes (.ok u))]
      { s with host := h₂ } := .single _ rfl hr
  rcases hg : Host.openGroups ifIndex h₂ with ⟨e | v, h₃⟩
  · have refused : Rests { s with host := h₂ } [.call (.openGroups ifIndex (.error e))]
        { s with host := h₃ } := .single _ rfl hg
    refine givesUp [.lookup _ _, .openRoutes _, .openGroups _ _] [.routes, .device]
      (looked.append (opened.append refused)) (.groups created named) ?_
    simp only [start, ne_eq, created, named, not_true_eq_false, if_false, LinkM.bind_run,
      LinkM.onHost_run, hi, hr, hg]
  have run : c.start device s =
      ((.ok (), { c with state := .initialized, resources := some ⟨device, ifIndex⟩ }),
        { s with host := h₃ }) := by
    simp only [start, ne_eq, created, named, not_true_eq_false, if_false, LinkM.bind_run,
      LinkM.pure_run, LinkM.onHost_run, hi, hr, hg]
  rw [run]
  have joined : Rests { s with host := h₂ } [.call (.openGroups ifIndex (.ok v))]
      { s with host := h₃ } := .single _ rfl hg
  exact .started created named (looked.append (opened.append joined))

/-! ## All operations -/

/-- The resources are there exactly while the stage is an active one. -/
def IsStaged (c : Controller) : Prop :=
  c.resources.isSome = c.state.isActive

/-- An operation of a staged controller is a transition, whatever the host answers. -/
theorem apply_transition (staged : c.IsStaged) (op : Operation) (s : Shared σ) :
    c.Transition s op (c.apply op s).1.1 (c.apply op s).1.2 (c.apply op s).2 := by
  cases op with
  | start device => exact start_transition device s
  | setUp up => exact setUp_transition staged up s
  | addresses snapshot => exact updateAddresses_transition snapshot s
  | prefixes snapshot => exact .prefixes
  | daemonDied => exact .died (setUp_transition staged false s)
  | destroy => exact destroy_transition s

theorem updatePrefixes_eq (c : Controller) (snapshot : List PrefixReport) :
    c.updatePrefixes snapshot = { c with
      inventory := { c.inventory with routes := (c.updatePrefixes snapshot).inventory.routes }
      onMesh := (c.updatePrefixes snapshot).onMesh } := by
  rw [updatePrefixes]
  split
  · rfl
  · dsimp only
    rw [foldl_rememberRoute, foldl_forgetRoute]

@[simp] theorem state_updatePrefixes (c : Controller) (snapshot : List PrefixReport) :
    (c.updatePrefixes snapshot).state = c.state := by
  rw [updatePrefixes_eq]

@[simp] theorem resources_updatePrefixes (c : Controller) (snapshot : List PrefixReport) :
    (c.updatePrefixes snapshot).resources = c.resources := by
  rw [updatePrefixes_eq]

@[simp] theorem addresses_updatePrefixes (c : Controller) (snapshot : List PrefixReport) :
    (c.updatePrefixes snapshot).inventory.addresses = c.inventory.addresses := by
  rw [updatePrefixes_eq]

theorem reconciled_eq (c : Controller) (snapshot : List AddressReport) (t : Reconciliation) :
    c.reconciled snapshot t = { c with
      inventory := (c.reconciled snapshot t).inventory
      groups := Diff.distinct (desiredGroups snapshot) } := by
  rw [reconciled, after_eq]

@[simp] theorem state_reconciled (c : Controller) (snapshot : List AddressReport)
    (t : Reconciliation) : (c.reconciled snapshot t).state = c.state := by
  rw [reconciled_eq]

@[simp] theorem resources_reconciled (c : Controller) (snapshot : List AddressReport)
    (t : Reconciliation) : (c.reconciled snapshot t).resources = c.resources := by
  rw [reconciled_eq]

@[simp] theorem onMesh_reconciled (c : Controller) (snapshot : List AddressReport)
    (t : Reconciliation) : (c.reconciled snapshot t).onMesh = c.onMesh := by
  rw [reconciled_eq]

theorem Transition.isStaged {s s' : Shared σ} {op : Operation} {result : ControllerResult}
    {c' : Controller} (t : c.Transition s op result c' s') (staged : c.IsStaged) :
    c'.IsStaged := by
  induction t with
  | notStarted => exact staged
  | started => rfl
  | notSwitched => exact staged
  | notRaised => exact staged
  | raised active => exact staged.trans active
  | lowered active => exact staged.trans active
  | ignored => exact staged
  | reconciled =>
      rw [IsStaged, resources_reconciled, state_reconciled]
      exact staged
  | prefixes =>
      rw [IsStaged, resources_updatePrefixes, state_updatePrefixes]
      exact staged
  | died _ ih => exact ih
  | destroyedBefore => exact staged
  | destroyedUnused _ none => exact congrArg Option.isSome none
  | destroyed => rfl

theorem Transition.keysUnique {s s' : Shared σ} {op : Operation} {result : ControllerResult}
    {c' : Controller} (t : c.Transition s op result c' s')
    (h : LinkAddress.KeysUnique c.inventory.addresses) :
    LinkAddress.KeysUnique c'.inventory.addresses := by
  induction t with
  | lowered => exact List.nodup_nil
  | reconciled => exact keysUnique_after h _
  | prefixes =>
      rw [addresses_updatePrefixes]
      exact h
  | died _ ih => exact ih
  | destroyed => exact List.nodup_nil
  | _ => exact h

theorem Transition.nodup_groups {s s' : Shared σ} {op : Operation} {result : ControllerResult}
    {c' : Controller} (t : c.Transition s op result c' s') (h : c.groups.Nodup) :
    c'.groups.Nodup := by
  induction t with
  | reconciled => exact Diff.nodup_distinct _
  | prefixes =>
      rw [updatePrefixes_eq]
      exact h
  | died _ ih => exact ih
  | _ => exact h

/-- An operation is a dialogue with the host. -/
theorem Transition.dialogue {s s' : Shared σ} {op : Operation} {result : ControllerResult}
    {c' : Controller} (t : c.Transition s op result c' s') :
    ∃ es, Dialogue s.host es s'.host := by
  induction t with
  | notStarted _ rest => exact ⟨_, rest.dialogue⟩
  | started _ _ rest => exact ⟨_, rest.dialogue⟩
  | notSwitched => exact ⟨_, .nil _⟩
  | notRaised _ rest => exact ⟨_, rest.dialogue⟩
  | raised _ rest => exact ⟨_, rest.dialogue⟩
  | lowered _ strip rest => exact ⟨_, strip.issues.dialogue.append rest.dialogue⟩
  | ignored => exact ⟨_, .nil _⟩
  | reconciled step => exact ⟨_, step.dialogue⟩
  | prefixes => exact ⟨_, .nil _⟩
  | died _ ih => exact ih
  | destroyedBefore => exact ⟨_, .nil _⟩
  | destroyedUnused => exact ⟨_, .nil _⟩
  | destroyed _ strip rest => exact ⟨_, strip.issues.dialogue.append rest.dialogue⟩

/-- How an operation deals with the host: it rests, or it strips the interface first, or it applies
    a snapshot of addresses. -/
inductive Deals (c : Controller) (s : Shared σ) : Operation → Shared σ → Prop
  | rests {op : Operation} {es : List Exchange} {s' : Shared σ} :
      Rests s es s' → Deals c s op s'
  | strips {op : Operation} {ifIndex : UInt32} {qs : List Request} {es : List Exchange}
      {s' s'' : Shared σ} :
      op = .setUp false ∨ op = .daemonDied ∨ op = .destroy →
      c.Strips ifIndex s qs s' → Rests s' es s'' → Deals c s op s''
  | reconciles {snapshot : List AddressReport} {t : Reconciliation} {s' : Shared σ} :
      c.Reconciles snapshot s t s' → Deals c s (.addresses snapshot) s'

theorem Transition.deals {s s' : Shared σ} {op : Operation} {result : ControllerResult}
    {c' : Controller} (t : c.Transition s op result c' s') : c.Deals s op s' := by
  have still : Rests s [] s := ⟨rfl, by simp, .nil _⟩
  induction t with
  | notStarted _ rest => exact .rests rest
  | started _ _ rest => exact .rests rest
  | notSwitched => exact .rests still
  | notRaised _ rest => exact .rests rest
  | raised _ rest => exact .rests rest
  | lowered _ strip rest => exact .strips (by simp) strip rest
  | ignored => exact .rests still
  | reconciled step => exact .reconciles step
  | prefixes => exact .rests still
  | died _ ih =>
      cases ih with
      | rests rest => exact .rests rest
      | strips _ strip rest => exact .strips (by simp) strip rest
  | destroyedBefore => exact .rests still
  | destroyedUnused => exact .rests still
  | destroyed _ strip rest => exact .strips (by simp) strip rest

/-! ## Whole runs -/

/-- What a new controller comes to by its operations, in any order. Between two of them the shared
    part may change as `between` says: time passes, other controllers act, the host is changed. -/
inductive Reaches (between : Shared σ → Shared σ → Prop) (config : Config) (start : Shared σ) :
    Controller → Shared σ → Prop
  | new : Reaches between config start (new config) start
  | operate {c : Controller} {s : Shared σ} (op : Operation) :
      Reaches between config start c s →
      Reaches between config start (c.apply op s).1.2 (c.apply op s).2
  | pass {c : Controller} {s s' : Shared σ} :
      Reaches between config start c s → between s s' → Reaches between config start c s'

variable {between : Shared σ → Shared σ → Prop} {config : Config} {start : Shared σ}

theorem Reaches.isStaged {s : Shared σ} (reach : Reaches between config start c s) :
    c.IsStaged := by
  induction reach with
  | new => rfl
  | operate op _ ih => exact (apply_transition ih op _).isStaged ih
  | pass _ _ ih => exact ih

/-- What holds at the start and is kept by every transition and by every change between two of
    them holds throughout. -/
theorem Reaches.invariant {P : Controller → Shared σ → Prop} (initial : P (.new config) start)
    (step : ∀ {c : Controller} {s : Shared σ} {op : Operation} {result : ControllerResult}
      {c' : Controller} {s' : Shared σ}, c.Transition s op result c' s' → P c s → P c' s')
    (changed : ∀ {c : Controller} {s s' : Shared σ}, between s s' → P c s → P c s')
    {s : Shared σ} (reach : Reaches between config start c s) : P c s := by
  induction reach with
  | new => exact initial
  | operate op before ih => exact step (apply_transition before.isStaged op _) ih
  | pass _ change ih => exact changed change ih

theorem Reaches.keysUnique {s : Shared σ} (reach : Reaches between config start c s) :
    LinkAddress.KeysUnique c.inventory.addresses :=
  reach.invariant (P := fun c _ => LinkAddress.KeysUnique c.inventory.addresses) List.nodup_nil
    Transition.keysUnique fun _ h => h

theorem Reaches.nodup_groups {s : Shared σ} (reach : Reaches between config start c s) :
    c.groups.Nodup :=
  reach.invariant (P := fun c _ => c.groups.Nodup) List.nodup_nil Transition.nodup_groups
    fun _ h => h

/-- A controller and what is shared after operations that follow one another at once. -/
def run (c : Controller) (s : Shared σ) : List Operation → Controller × Shared σ
  | [] => (c, s)
  | op :: ops => run (c.apply op s).1.2 (c.apply op s).2 ops

theorem Reaches.run {s : Shared σ} (ops : List Operation)
    (reach : Reaches between config start c s) :
    Reaches between config start (c.run s ops).1 (c.run s ops).2 := by
  induction ops generalizing c s with
  | nil => exact reach
  | cons op ops ih => exact ih (reach.operate op)

end Controller

/-! ## Concrete cases

A family of addresses in one network, a family of groups, and their reports. Logs can be
compared. -/

deriving instance DecidableEq for Call

/-- The address `fd00::n`. -/
def Ipv6.numbered (n : UInt8) : Ipv6 :=
  ⟨0xfd :: List.replicate 14 0 ++ [n], rfl⟩

/-- The report of a numbered address of length 64. -/
def AddressReport.numbered (n : UInt8) (preferred : Bool) : AddressReport :=
  ⟨(Ipv6.numbered n).octets, 64, false, false, preferred⟩

/-- The group `ff03::n`. -/
def Ipv6.numberedGroup (n : UInt8) : Ipv6 :=
  ⟨0xff :: 0x03 :: List.replicate 13 0 ++ [n], rfl⟩

/-- The report of a numbered group. -/
def AddressReport.numberedGroup (n : UInt8) : AddressReport :=
  ⟨(Ipv6.numberedGroup n).octets, 128, false, false, false⟩

/-- The entry of a numbered address that is preferred for ever. -/
def LinkAddress.numbered (n : UInt8) : LinkAddress :=
  .of (.numbered n) 64 .permanent .permanent

end MeshLink
