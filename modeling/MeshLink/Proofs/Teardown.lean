import MeshLink.Proofs.Course
import MeshLink.Proofs.Lifecycle
set_option autoImplicit false

/-! # Taking everything down

The switch down, the end of the mesh daemon and destruction strip the interface in the same way:
everything mirrored is asked to be removed, in order, and no answer changes what is asked next. They
differ in what follows. The first two ask for the link to be taken down, the last closes the
handles.

Groups are left alone by all three. Those that are remembered are still joined, and the kernel drops
them with the socket that joined them. -/

namespace MeshLink

/-- The removals of a teardown as addresses with the outcomes. -/
theorem Request.exists_deletions {qs : List Request} (removals : ∀ q ∈ qs, q.isRemoval = true) :
    ∃ deletions : List (LinkAddress × KernelResult),
      qs = deletions.map (fun d => .removal d.1 d.2) ∧
        deletions.map Prod.fst = qs.map Request.address := by
  induction qs with
  | nil => exact ⟨[], rfl, rfl⟩
  | cons q qs ih =>
      obtain ⟨a, outcome, rfl⟩ := eq_removal (removals _ List.mem_cons_self)
      obtain ⟨deletions, rfl, addresses⟩ := ih fun p hp => removals p (List.mem_cons_of_mem _ hp)
      exact ⟨(a, outcome) :: deletions, rfl, congrArg (a :: ·) addresses⟩

theorem Request.calls_removals (ifIndex seq : UInt32)
    (deletions : List (LinkAddress × KernelResult)) :
    calls ifIndex seq (deletions.map fun d => .removal d.1 d.2) =
      deletions.mapIdx fun i d =>
        .send (Netlink.delAddress (seq + UInt32.ofNat i) d.1.address d.1.length ifIndex)
          (seq + UInt32.ofNat i) d.2 := by
  induction deletions generalizing seq with
  | nil => rfl
  | cons d deletions ih =>
      have first : seq + UInt32.ofNat 0 = seq := UInt32.add_zero seq
      rw [List.map_cons, calls, ih, List.mapIdx_cons, first]
      simp only [number_succ]
      rfl

namespace Controller

variable {σ : Type} [Host σ] {c c' : Controller} {s s' : Shared (Recorded σ)} {r : Resources}

/-- Everything is taken off the interface of a controller with these resources: one request to
    delete each mirrored address, in order and with whatever outcomes, the given calls, and no
    others. The groups stay. -/
structure TearsDown (c : Controller) (r : Resources) (s : Shared (Recorded σ))
    (deletions : List (LinkAddress × KernelResult)) (afterwards : List Call) (c' : Controller)
    (s' : Shared (Recorded σ)) : Prop where
  addresses : c'.inventory.addresses = []
  routes : c'.inventory.routes = []
  onMesh : c'.onMesh = []
  groups : c'.groups = c.groups
  deleted : deletions.map Prod.fst = c.inventory.addresses
  calls : s'.host.calls = s.host.calls ++
    (deletions.mapIdx fun i d =>
      .send (Netlink.delAddress (s.sequence + UInt32.ofNat i) d.1.address d.1.length r.ifIndex)
        (s.sequence + UInt32.ofNat i) d.2) ++ afterwards
  /-- Read by the decoder, each of the requests is a deletion of its address from the interface,
      under its number. -/
  readings : ∀ (i : Nat) (d : LinkAddress × KernelResult), deletions[i]? = some d →
    ∃ octets m, s'.host.calls[s.host.calls.length + i]? =
        some (.send octets (s.sequence + UInt32.ofNat i) d.2) ∧
      Netlink.AddressMessage.decode? octets = some m ∧
      m.type = Netlink.MessageType.delAddress ∧ m.address = some d.1.address ∧
      m.length = d.1.length ∧ m.ifIndex = r.ifIndex ∧ m.seq = s.sequence + UInt32.ofNat i
  sequence : s'.sequence = s.sequence + UInt32.ofNat deletions.length

/-- A strip and the calls that follow it take everything down. -/
theorem Strips.tearsDown {ifIndex : UInt32} {qs : List Request} {s'' : Shared (Recorded σ)}
    {es : List Exchange} (strip : c.Strips ifIndex s qs s') (held : c.resources = some r)
    (rest : Rests s' es s'') (state : Lifecycle) (resources : Option Resources) :
    ∃ deletions, c.TearsDown r s deletions (es.filterMap Exchange.call?)
      { c.stripped with state := state, resources := resources } s'' := by
  obtain ⟨deletions, rfl, addresses⟩ := Request.exists_deletions strip.removals
  have index : ifIndex = r.ifIndex :=
    Option.some.inj (strip.index.symm.trans (ifIndex_eq_some held))
  have calls := rest.dialogue.calls_eq
  rw [strip.calls_eq, Request.calls_removals, index] at calls
  refine ⟨deletions, rfl, rfl, rfl, rfl, addresses.trans strip.removed, calls, ?_, ?_⟩
  · intro i d there
    refine ⟨_, _, ?_, Netlink.AddressMessage.decode?_delAddress (s.sequence + UInt32.ofNat i)
      d.1.address d.1.length r.ifIndex, rfl, rfl, rfl, rfl, rfl⟩
    -- The calls of the teardown stand behind those made before.
    have small : i < deletions.length := (List.getElem?_eq_some_iff.1 there).1
    rw [calls, List.append_assoc, List.getElem?_append_right (Nat.le_add_right _ _),
      Nat.add_sub_cancel_left, List.getElem?_append_left (by rwa [List.length_mapIdx]),
      List.getElem?_mapIdx, there]
    rfl
  · rw [rest.sequence, strip.issues.sequence, List.length_map]

theorem Transition.tearsDown_of_lowered {result : ControllerResult}
    (t : c.Transition s (.setUp false) result c' s') (active : c.state.isActive = true)
    (held : c.resources = some r) :
    ∃ deletions outcome, result = c.linkResult false outcome ∧ c'.state = .down ∧
      c'.resources = some r ∧
      c.TearsDown r s deletions [.setLink c.config.interface false outcome] c' s' := by
  cases t with
  | notSwitched idle => exact absurd (idle.symm.trans active) Bool.false_ne_true
  | @lowered _ _ outcome _ _ _ strip rest =>
      obtain ⟨deletions, down⟩ := strip.tearsDown held rest .down c.resources
      exact ⟨deletions, outcome, rfl, rfl, held, down⟩

theorem Transition.tearsDown_of_destroyed {result : ControllerResult}
    (t : c.Transition s .destroy result c' s') (active : c.state.isActive = true)
    (held : c.resources = some r) :
    ∃ deletions, c'.state = .destroyed ∧ c'.resources = none ∧
      c.TearsDown r s deletions [.close .device, .close .routes, .close .groups] c' s' := by
  cases t with
  | destroyedBefore ended =>
      rw [ended] at active
      cases active
  | destroyedUnused _ unused => exact absurd (unused.symm.trans held) (Option.some_ne_none r).symm
  | destroyed _ strip rest =>
      obtain ⟨deletions, down⟩ := strip.tearsDown held rest .destroyed none
      exact ⟨deletions, rfl, rfl, down⟩

theorem destroy_eq_self {σ : Type} [Host σ] (ended : c.state = .destroyed) (s : Shared σ) :
    c.destroy s = (c, s) := by
  simp only [destroy, if_pos ended, LinkM.pure_run]

/-- **Teardown is complete.** Whatever a controller with resources has been through, and whatever
    the host answers to each deletion and to the switch of the link, the three ways to take it down
    ask for the deletion of everything mirrored and leave nothing mirrored. Destruction releases
    the resources on top, and is done once. -/
theorem Reaches.tears_down
    {between : Shared (Recorded σ) → Shared (Recorded σ) → Prop} {config : Config}
    {start : Shared (Recorded σ)} (reach : Reaches between config start c s)
    (held : c.resources = some r) :
    (∃ deletions outcome, (c.setUp false s).1.1 = c.linkResult false outcome ∧
        (c.setUp false s).1.2.state = .down ∧ (c.setUp false s).1.2.resources = some r ∧
        c.TearsDown r s deletions [.setLink c.config.interface false outcome]
          (c.setUp false s).1.2 (c.setUp false s).2) ∧
      (∃ deletions outcome, (c.daemonDied s).1.state = .down ∧
        (c.daemonDied s).1.resources = some r ∧
        c.TearsDown r s deletions [.setLink c.config.interface false outcome]
          (c.daemonDied s).1 (c.daemonDied s).2) ∧
      (∃ deletions, (c.destroy s).1.state = .destroyed ∧ (c.destroy s).1.resources = none ∧
        c.TearsDown r s deletions [.close .device, .close .routes, .close .groups]
          (c.destroy s).1 (c.destroy s).2) ∧
      ∀ s' : Shared (Recorded σ), (c.destroy s).1.destroy s' = ((c.destroy s).1, s') := by
  have staged := reach.isStaged
  have active : c.state.isActive = true := by
    rw [← staged, held]
    rfl
  have lowered := (setUp_transition staged false s).tearsDown_of_lowered active held
  have destroyed := (destroy_transition s).tearsDown_of_destroyed active held
  refine ⟨lowered, ?_, destroyed, ?_⟩
  · -- The end of the daemon is a switch down whose result is not told.
    obtain ⟨deletions, outcome, -, down⟩ := lowered
    exact ⟨deletions, outcome, down⟩
  · obtain ⟨-, ended, -⟩ := destroyed
    exact destroy_eq_self ended

/-- Two addresses and a group are there, both deletions and the switch of the link fail, and the
    numbers wrap around in between. -/
theorem tears_down_where_all_fails :
    let start : Shared (Recorded MemoryKernel) :=
      ⟨0xfffffffd, { MemoryKernel.idle 0 with failingSends := [2, 3], failLink := true }, []⟩
    let ops : List Operation := [.start ⟨Config.defaultInterface⟩, .prefixes [⟨[0xfe], 8⟩],
      .addresses [.numbered 1 true, .numbered 2 true, .numberedGroup 1]]
    let c := ((new .default).run start ops).1
    let s := ((new .default).run start ops).2
    let r : Resources := ⟨⟨Config.defaultInterface⟩, MemoryKernel.defaultIndex⟩
    Reaches (fun s s' => s' = s) .default start c s ∧ c.resources = some r ∧
      c.inventory.addresses = [.numbered 1, .numbered 2] ∧ c.onMesh.length = 1 ∧
      c.groups = [.numberedGroup 1] ∧ s.sequence = 0xffffffff ∧
      (∃ deletions outcome, (c.setUp false s).1.1 = c.linkResult false outcome ∧
        (c.setUp false s).1.2.state = .down ∧ (c.setUp false s).1.2.resources = some r ∧
        c.TearsDown r s deletions [.setLink c.config.interface false outcome]
          (c.setUp false s).1.2 (c.setUp false s).2) ∧
      (∃ deletions outcome, (c.daemonDied s).1.state = .down ∧
        (c.daemonDied s).1.resources = some r ∧
        c.TearsDown r s deletions [.setLink c.config.interface false outcome]
          (c.daemonDied s).1 (c.daemonDied s).2) ∧
      (∃ deletions, (c.destroy s).1.state = .destroyed ∧ (c.destroy s).1.resources = none ∧
        c.TearsDown r s deletions [.close .device, .close .routes, .close .groups]
          (c.destroy s).1 (c.destroy s).2) ∧
      ∀ s' : Shared (Recorded MemoryKernel),
        (c.destroy s).1.destroy s' = ((c.destroy s).1, s') := by
  intro start ops c s r
  have reach : Reaches (fun s s' => s' = s) .default start c s := Reaches.run ops .new
  have held : c.resources = some r := by decide +kernel
  have addresses : c.inventory.addresses = [.numbered 1, .numbered 2] := by decide +kernel
  have onMesh : c.onMesh.length = 1 := by decide +kernel
  have groups : c.groups = [.numberedGroup 1] := by decide +kernel
  have sequence : s.sequence = 0xffffffff := by decide +kernel
  clear_value c s
  exact ⟨reach, held, addresses, onMesh, groups, sequence, reach.tears_down held⟩

end Controller
end MeshLink
