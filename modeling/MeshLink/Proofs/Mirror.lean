import MeshLink.Kernel.Memory
import MeshLink.Proofs.Answers
import MeshLink.Proofs.Reports
set_option autoImplicit false

/-! # What a snapshot leaves mirrored

The outcome of a snapshot of addresses in closed form. What was mirrored and is still wanted stays,
in its order; what is wanted and new follows, in the order of the snapshot, unless its addition was
refused. The wanted list has unique keys, so an addition never overwrites what is there, and a
removal by value never misses.

Which additions were refused is read off the log of calls. -/

namespace MeshLink

/-- A request in the log to add the address had the outcome that it is there. -/
def isGranted (log : List Call) (a : LinkAddress) : Bool :=
  (answers Netlink.MessageType.newAddress a.key log).any Controller.isAccepted

/-- A request in the log to add the address failed. -/
def isRefused (log : List Call) (a : LinkAddress) : Bool :=
  (answers Netlink.MessageType.newAddress a.key log).any (!Controller.isAccepted ·)

namespace Controller

/-- Addresses and groups that are wanted are mirrored after calls to the host, as far as the log of
    the calls says that they could be. -/
structure Mirrors (c : Controller) (wanted : List LinkAddress) (groups : List Ipv6)
    (log : List Call) (c' : Controller) : Prop where
  /-- Each wanted address that was not mirrored is asked for, once, and is mirrored afterwards if it
      is there then. -/
  asked : ∀ a ∈ wanted, a ∉ c.inventory.addresses →
    ∃ outcome, answers Netlink.MessageType.newAddress a.key log = [outcome] ∧
      (a ∈ c'.inventory.addresses ↔ outcome = .ok () ∨ outcome = .error .alreadyPresent)
  addresses : c'.inventory.addresses =
    c.inventory.addresses.filter (· ∈ wanted) ++
      wanted.filter fun a => a ∉ c.inventory.addresses ∧ isGranted log a
  /-- Only what is new and was refused is missing. -/
  mem_addresses : ∀ a, a ∈ c'.inventory.addresses ↔
    a ∈ wanted ∧ ¬ (a ∉ c.inventory.addresses ∧ isRefused log a)
  /-- If nothing new was refused, nothing is missing. -/
  complete : (∀ a ∈ wanted, a ∉ c.inventory.addresses → isRefused log a = false) →
    ∀ a, a ∈ c'.inventory.addresses ↔ a ∈ wanted
  groups : c'.groups = groups
  onMesh : c'.onMesh = c.onMesh
  state : c'.state = c.state
  config : c'.config = c.config
  resources : c'.resources = c.resources

variable {σ : Type} [Host σ] {c : Controller} {snapshot : List AddressReport}

/-- With resources a snapshot of addresses is applied. -/
theorem updateAddresses_reconciles {r : Resources} (hr : c.resources = some r)
    (snapshot : List AddressReport) (s : Shared σ) :
    ∃ t, c.Reconciles snapshot s t (c.updateAddresses snapshot s).2 ∧
      (c.updateAddresses snapshot s).1 = c.reconciled snapshot t := by
  have step := updateAddresses_transition (c := c) snapshot s
  generalize c.updateAddresses snapshot s = after at step
  obtain ⟨c', s'⟩ := after
  cases step with
  | ignored none => rw [hr] at none; exact absurd none (Option.some_ne_none r)
  | reconciled t => exact ⟨_, t, rfl⟩

namespace Reconciles

variable {s s' : Shared σ} {t : Reconciliation}

theorem calls_eq {s s' : Shared (Recorded σ)} (h : c.Reconciles snapshot s t s') :
    s'.host.calls = s.host.calls ++ t.calls s.sequence := by
  rw [h.dialogue.calls_eq, t.filterMap_dialogue]

theorem nodup_desired (snapshot : List AddressReport) (now : Int64) :
    (desired snapshot now).Nodup :=
  (Desired.keysUnique_addresses _ now).nodup

/-- What is wanted is, for each address and length, the last entry about it. -/
theorem lastOfEach_eq (h : c.Reconciles snapshot s t s') :
    LinkAddress.lastOfEach (Desired.unicast (AddressReport.entries snapshot)
      (Host.now s.host).1) = desired snapshot t.now := by
  rw [h.clock, ← Desired.addresses_eq]
  rfl

theorem removed_eq (h : c.Reconciles snapshot s t s')
    (unique : LinkAddress.KeysUnique c.inventory.addresses) :
    t.removals.map Request.address =
      c.inventory.addresses.filter (· ∉ desired snapshot t.now) := by
  rw [h.removed, Diff.without, Diff.distinct_of_nodup unique.nodup]

theorem added_eq (h : c.Reconciles snapshot s t s') :
    t.additions.map Request.address =
      (desired snapshot t.now).filter (· ∉ c.inventory.addresses) := by
  rw [h.added, Diff.without, Diff.distinct_of_nodup (nodup_desired snapshot t.now)]

theorem keysUnique_added (h : c.Reconciles snapshot s t s') :
    LinkAddress.KeysUnique (t.additions.map Request.address) := by
  rw [h.added_eq]
  exact (Desired.keysUnique_addresses _ t.now).filter _

/-- A group is left if it is mirrored and not wanted, in the order of the mirror. -/
theorem left_eq (h : c.Reconciles snapshot s t s') (unique : c.groups.Nodup) :
    t.leaves.map Prod.fst = c.groups.filter (· ∉ Diff.distinct (desiredGroups snapshot)) := by
  rw [h.left, Diff.without, Diff.distinct_of_nodup unique]
  simp only [Diff.mem_distinct]

theorem addresses_after_removals (h : c.Reconciles snapshot s t s') :
    (c.after t.removals).inventory.addresses =
      c.inventory.addresses.filter (· ∈ desired snapshot t.now) := by
  rw [Controller.addresses_after_removals h.removals, h.removed]
  refine List.filter_congr ?_
  intro a ha
  simp [ha]

/-- No addition is about a key that is there: what stays is wanted, and wanted keys are unique. -/
theorem key_notMem (h : c.Reconciles snapshot s t s') :
    ∀ q ∈ t.additions, q.address.key ∉
      (c.after t.removals).inventory.addresses.map LinkAddress.key := by
  intro q hq hk
  have added : q.address ∈ t.additions.map Request.address := List.mem_map_of_mem hq
  rw [h.added_eq, List.mem_filter] at added
  obtain ⟨wanted, new⟩ := added
  obtain ⟨b, hb, key⟩ := List.mem_map.1 hk
  rw [h.addresses_after_removals, List.mem_filter] at hb
  -- Both are wanted and wanted keys are unique, so the new one would be the old one.
  have same : b = q.address := (Desired.keysUnique_addresses _ t.now).eq_of_key_eq
    (of_decide_eq_true hb.2) wanted key
  rw [← same] at new
  exact of_decide_eq_true new hb.1

theorem addresses_eq (h : c.Reconciles snapshot s t s') :
    (c.reconciled snapshot t).inventory.addresses =
      c.inventory.addresses.filter (· ∈ desired snapshot t.now) ++
        (t.additions.filter Request.isGranted).map Request.address := by
  show (c.after (t.removals ++ t.additions)).inventory.addresses = _
  rw [after_append, addresses_after_additions h.additions _ h.keysUnique_added h.key_notMem,
    h.addresses_after_removals]

/-- Each addition has one answer in the log, its outcome. -/
theorem answers_addition (h : c.Reconciles snapshot s t s') {q : Request} (hq : q ∈ t.additions) :
    answers Netlink.MessageType.newAddress q.address.key (t.calls s.sequence) = [q.outcome] := by
  have type : q.type = Netlink.MessageType.newAddress := by
    rw [Request.type, h.additions q hq]
    rfl
  have others : t.removals.filter (Request.isAbout q.type q.address.key) = [] := by
    refine List.filter_eq_nil_iff.2 ?_
    intro p hp
    simp [Request.isAbout, Request.type, h.removals p hp, h.additions q hq,
      Netlink.MessageType.delAddress, Netlink.MessageType.newAddress]
  rw [← type, Reconciliation.calls, answers_append, t.answers_groupCalls, List.append_nil,
    Request.answers_requests, Reconciliation.requests, List.filter_append, others,
    Request.filter_isAbout_self false h.additions h.keysUnique_added hq]
  rfl

theorem isGranted_addition (h : c.Reconciles snapshot s t s') {q : Request}
    (hq : q ∈ t.additions) : isGranted (t.calls s.sequence) q.address = q.isGranted := by
  rw [isGranted, h.answers_addition hq]
  obtain ⟨a, time, outcome, rfl⟩ := Request.eq_addition (h.additions _ hq)
  simp [Request.isGranted, Request.outcome]

theorem exists_addition (h : c.Reconciles snapshot s t s') {a : LinkAddress}
    (wanted : a ∈ desired snapshot t.now) (new : a ∉ c.inventory.addresses) :
    ∃ q ∈ t.additions, q.address = a := by
  have added : a ∈ t.additions.map Request.address := by
    rw [h.added_eq]
    exact List.mem_filter.2 ⟨wanted, decide_eq_true new⟩
  exact List.mem_map.1 added

theorem isRefused_eq (h : c.Reconciles snapshot s t s') {a : LinkAddress}
    (wanted : a ∈ desired snapshot t.now) (new : a ∉ c.inventory.addresses) :
    isRefused (t.calls s.sequence) a = !isGranted (t.calls s.sequence) a := by
  obtain ⟨q, hq, rfl⟩ := h.exists_addition wanted new
  rw [isRefused, isGranted, h.answers_addition hq]
  simp

/-- The additions that were granted, by the log. -/
theorem granted_eq (h : c.Reconciles snapshot s t s') :
    (t.additions.filter Request.isGranted).map Request.address =
      (desired snapshot t.now).filter
        fun a => a ∉ c.inventory.addresses ∧ isGranted (t.calls s.sequence) a := by
  have told : t.additions.filter Request.isGranted =
      t.additions.filter (isGranted (t.calls s.sequence) ∘ Request.address) :=
    List.filter_congr fun q hq => (h.isGranted_addition hq).symm
  rw [told, ← List.filter_map, h.added_eq, List.filter_filter]
  refine List.filter_congr ?_
  intro a _
  rw [Bool.and_comm]
  simp

theorem mem_addresses (h : c.Reconciles snapshot s t s') (a : LinkAddress) :
    a ∈ (c.reconciled snapshot t).inventory.addresses ↔ a ∈ desired snapshot t.now ∧
      ¬ (a ∉ c.inventory.addresses ∧ isRefused (t.calls s.sequence) a = true) := by
  rw [h.addresses_eq, h.granted_eq, List.mem_append, List.mem_filter, List.mem_filter]
  by_cases wanted : a ∈ desired snapshot t.now
  swap
  · simp [wanted]
  by_cases new : a ∈ c.inventory.addresses
  · simp [wanted, new]
  · simp [wanted, new, h.isRefused_eq wanted new]

end Reconciles

/-- **What a snapshot of addresses leaves.** Whatever the host answers and whatever was mirrored
    before, the addresses and groups that the snapshot reports are mirrored as far as its log says:
    for each address and length the last report about it in the place of the first, and the groups
    without later duplicates. -/
theorem updateAddresses_mirrors {r : Resources} (hr : c.resources = some r)
    (snapshot : List AddressReport) (s : Shared (Recorded σ)) :
    ∃ log, (c.updateAddresses snapshot s).2.host.calls = s.host.calls ++ log ∧
      c.Mirrors (AddressReport.wantedAddresses snapshot (Host.now s.host).1)
        (AddressReport.wantedGroups snapshot) log (c.updateAddresses snapshot s).1 := by
  obtain ⟨t, h, hc⟩ := updateAddresses_reconciles hr snapshot s
  rw [hc, AddressReport.wantedAddresses_eq, h.lastOfEach_eq, AddressReport.wantedGroups_eq]
  refine ⟨t.calls s.sequence, ?_, ?_⟩
  · rw [h.dialogue.calls_eq, t.filterMap_dialogue]
  · exact {
      asked := by
        intro a wanted new
        -- What is wanted and new is what an addition is about, and the log has its one answer.
        obtain ⟨q, hq, rfl⟩ := h.exists_addition wanted new
        refine ⟨q.outcome, h.answers_addition hq, ?_⟩
        rw [h.mem_addresses, h.isRefused_eq wanted new, h.isGranted_addition hq,
          ← Request.isGranted_iff (h.additions q hq)]
        simp [wanted, new]
      addresses := by rw [h.addresses_eq, h.granted_eq]
      mem_addresses := h.mem_addresses
      complete := by
        intro granted a
        rw [h.mem_addresses]
        refine and_iff_left_of_imp ?_
        rintro wanted ⟨new, refused⟩
        rw [granted a wanted new] at refused
        exact Bool.false_ne_true refused
      groups := rfl
      onMesh := by rw [reconciled, after_eq]
      state := by rw [reconciled, after_eq]
      config := by rw [reconciled, after_eq]
      resources := by rw [reconciled, after_eq] }

/-- One address stays, one goes and two are new, one of which is reported twice; the kernel fails
    the second of the three requests. Two groups are new, the first of them reported again behind
    the second, and what is malformed is about neither. -/
theorem mirrors_after_one_refusal :
    let c : Controller := { new .default with
      state := .up
      resources := some ⟨⟨Config.defaultInterface⟩, MemoryKernel.defaultIndex⟩
      inventory := ⟨Config.defaultInterface, Config.defaultMtu, [.numbered 1, .numbered 2], []⟩
      groups := [.numberedGroup 9] }
    let kernel : MemoryKernel := { MemoryKernel.idle 0 with failingSends := [1] }
    let snapshot : List AddressReport :=
      [.numbered 3 false, .numberedGroup 7, .numbered 4 true, ⟨[0xff, 0x03], 64, false, true, true⟩,
        .numbered 2 true, .numberedGroup 5, .numbered 3 true, .numberedGroup 7]
    let s : Shared (Recorded MemoryKernel) := ⟨0, kernel, []⟩
    c.resources = some ⟨⟨Config.defaultInterface⟩, MemoryKernel.defaultIndex⟩ ∧
      (c.updateAddresses snapshot s).1.inventory.addresses = [.numbered 2, .numbered 4] ∧
      (c.updateAddresses snapshot s).1.groups = [.numberedGroup 7, .numberedGroup 5] ∧
      ∃ log, (c.updateAddresses snapshot s).2.host.calls = log ∧
        c.Mirrors [.numbered 3, .numbered 4, .numbered 2] [.numberedGroup 7, .numberedGroup 5] log
          (c.updateAddresses snapshot s).1 := by
  intro c kernel snapshot s
  have held : c.resources = some ⟨⟨Config.defaultInterface⟩, MemoryKernel.defaultIndex⟩ := rfl
  obtain ⟨log, calls, mirrors⟩ := updateAddresses_mirrors held snapshot s
  have wanted : AddressReport.wantedAddresses snapshot (Host.now s.host).1 =
      [.numbered 3, .numbered 4, .numbered 2] := by
    decide +kernel
  have groups : AddressReport.wantedGroups snapshot = [.numberedGroup 7, .numberedGroup 5] := by
    decide +kernel
  rw [wanted, groups] at mirrors
  exact ⟨held, by decide +kernel, mirrors.groups, log, calls, mirrors⟩

end Controller
end MeshLink
