import MeshLink.Proofs.Mirror
set_option autoImplicit false

/-! # The calls of a snapshot

A snapshot of addresses asks the host for what differs from the mirror and for nothing else, in a
fixed order: removals, additions, leaves, joins. What is asked depends on the mirror and on the
snapshot alone. The outcomes decide what is remembered afterwards, not what is asked next, so a
failure neither skips nor moves a later call.

The wanted addresses have unique keys and the mirrored ones too, so each difference lists every
element once, in the order of the list that it is taken from. -/

namespace MeshLink

theorem Request.calls_eq_mapIdx (ifIndex seq : UInt32) (qs : List Request) :
    calls ifIndex seq qs = qs.mapIdx fun i q => q.call ifIndex (seq + UInt32.ofNat i) := by
  induction qs generalizing seq with
  | nil => rfl
  | cons q qs ih =>
      have first : seq + UInt32.ofNat 0 = seq := UInt32.add_zero seq
      rw [calls, ih, List.mapIdx_cons, first]
      simp only [number_succ]

/-- A request in the log carries the index of the interface and its own number. -/
theorem Request.exists_reading {ifIndex seq n : UInt32} {qs : List Request} {octets : List UInt8}
    {outcome : KernelResult} (h : .send octets n outcome ∈ calls ifIndex seq qs) :
    ∃ m, Netlink.AddressMessage.decode? octets = some m ∧ m.ifIndex = ifIndex ∧ m.seq = n := by
  induction qs generalizing seq with
  | nil => exact absurd h List.not_mem_nil
  | cons q qs ih =>
      rcases List.mem_cons.1 h with same | later
      · cases same
        exact ⟨_, q.decode?_message ifIndex n, q.reading_ifIndex _ _, q.reading_seq _ _⟩
      · exact ih later

namespace Controller

/-- A log holds what is asked to reach wanted addresses and groups, in order and with whatever
    outcomes: one removal for each mirrored address that is not wanted, one addition for each wanted
    address that is not mirrored, one leave and one join for the groups likewise. All calls carry
    the index of the interface, and the requests take consecutive numbers. -/
structure Course (c : Controller) (wanted : List LinkAddress) (groups : List Ipv6) (seq : UInt32)
    (t : Reconciliation) (log : List Call) : Prop where
  index : c.ifIndex = some t.ifIndex
  removals : ∀ q ∈ t.removals, q.isRemoval = true
  removed : t.removals.map Request.address = c.inventory.addresses.filter (· ∉ wanted)
  additions : ∀ q ∈ t.additions, q.isRemoval = false
  added : t.additions.map Request.address = wanted.filter (· ∉ c.inventory.addresses)
  left : t.leaves.map Prod.fst = c.groups.filter (· ∉ groups)
  joined : t.joins.map Prod.fst = groups.filter (· ∉ c.groups)
  calls : log =
    (t.removals ++ t.additions).mapIdx (fun i q =>
      .send (q.message t.ifIndex (seq + UInt32.ofNat i)) (seq + UInt32.ofNat i) q.outcome) ++
    t.leaves.map (fun l => .leave l.1 t.ifIndex l.2) ++
    t.joins.map fun j => .join j.1 t.ifIndex j.2

variable {σ : Type} [Host σ] {c : Controller} {snapshot : List AddressReport}

/-- **The calls of a snapshot of addresses.** In whatever state a controller with resources is, and
    whatever the host answers, it makes exactly the calls that lead from its mirror to the
    snapshot, each once and in order. -/
theorem Reaches.updateAddresses_course
    {between : Shared (Recorded σ) → Shared (Recorded σ) → Prop} {config : Config}
    {start s : Shared (Recorded σ)} (reach : Reaches between config start c s) {r : Resources}
    (held : c.resources = some r) (snapshot : List AddressReport) :
    ∃ t log, (c.updateAddresses snapshot s).2.host.calls = s.host.calls ++ log ∧
      c.Course
        (LinkAddress.lastOfEach
          (Desired.unicast (AddressReport.entries snapshot) (Host.now s.host).1))
        (Diff.distinct (Desired.groups (AddressReport.entries snapshot))) s.sequence t log ∧
      (c.updateAddresses snapshot s).2.sequence =
        s.sequence + UInt32.ofNat (t.removals.length + t.additions.length) ∧
      ∀ octets n outcome, .send octets n outcome ∈ log →
        ∃ m, Netlink.AddressMessage.decode? octets = some m ∧ m.ifIndex = r.ifIndex ∧
          m.seq = n := by
  obtain ⟨t, step, -⟩ := updateAddresses_reconciles held snapshot s
  refine ⟨t, t.calls s.sequence, step.calls_eq, ?_, ?_, ?_⟩
  · rw [step.lastOfEach_eq]
    exact {
      index := step.index
      removals := step.removals
      removed := step.removed_eq reach.keysUnique
      additions := step.additions
      added := step.added_eq
      left := step.left_eq reach.nodup_groups
      joined := step.joined
      calls := by
        rw [Reconciliation.calls, Reconciliation.groupCalls, Request.calls_eq_mapIdx,
          ← List.append_assoc]
        rfl }
  · rw [step.sequence, Reconciliation.requests, List.length_append]
  · intro octets n outcome sent
    have index : t.ifIndex = r.ifIndex := by
      have same := step.index
      rw [ifIndex, held] at same
      exact (Option.some.inj same).symm
    rw [← index]
    rcases List.mem_append.1 sent with sent | sent
    · exact Request.exists_reading sent
    · -- No call about a group is a request.
      rcases List.mem_append.1 sent with sent | sent
      · obtain ⟨l, -, same⟩ := List.mem_map.1 sent
        exact Call.noConfusion same
      · obtain ⟨j, -, same⟩ := List.mem_map.1 sent
        exact Call.noConfusion same

/-- One address is replaced by another and one group by another while both requests fail; the
    numbers wrap around in between. -/
theorem course_of_failing_replacement :
    let start : Shared (Recorded MemoryKernel) :=
      ⟨0xfffffffd, { MemoryKernel.idle 0 with failingSends := [2, 3] }, []⟩
    let ops : List Operation := [.start ⟨Config.defaultInterface⟩,
      .addresses [.numbered 1 true, .numbered 2 true, .numberedGroup 1]]
    let c := ((new .default).run start ops).1
    let s := ((new .default).run start ops).2
    let snapshot : List AddressReport :=
      [.numberedGroup 2, .numbered 3 true, .numbered 2 true, .numbered 3 true]
    let r : Resources := ⟨⟨Config.defaultInterface⟩, MemoryKernel.defaultIndex⟩
    Reaches (fun s s' => s' = s) .default start c s ∧ c.resources = some r ∧
      c.inventory.addresses = [.numbered 1, .numbered 2] ∧ s.sequence = 0xffffffff ∧
      ∃ t log, (c.updateAddresses snapshot s).2.host.calls = s.host.calls ++ log ∧
        c.Course [.numbered 3, .numbered 2] [.numberedGroup 2] s.sequence t log ∧
        (c.updateAddresses snapshot s).2.sequence =
          s.sequence + UInt32.ofNat (t.removals.length + t.additions.length) ∧
        ∀ octets n outcome, .send octets n outcome ∈ log →
          ∃ m, Netlink.AddressMessage.decode? octets = some m ∧ m.ifIndex = r.ifIndex ∧
            m.seq = n := by
  intro start ops c s snapshot r
  have reach : Reaches (fun s s' => s' = s) .default start c s := Reaches.run ops .new
  have held : c.resources = some r := by decide +kernel
  refine ⟨reach, held, by decide +kernel, by decide +kernel, ?_⟩
  have course := reach.updateAddresses_course held snapshot
  have wanted : LinkAddress.lastOfEach (Desired.unicast (AddressReport.entries snapshot)
      (Host.now s.host).1) = [.numbered 3, .numbered 2] := by
    decide +kernel
  have groups : Diff.distinct (Desired.groups (AddressReport.entries snapshot)) =
      [.numberedGroup 2] := by
    decide +kernel
  rw [wanted, groups] at course
  exact course

end Controller
end MeshLink
