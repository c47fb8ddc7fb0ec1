import MeshLink.Proofs.Mirror
import MeshLink.Proofs.Wanted
import MeshLink.Session
set_option autoImplicit false

/-! # Snapshots that come again

After a snapshot the mirror holds what it wanted, except what was refused, and all of its groups.
So a second snapshot that wants the same has nothing to remove and no group to ask for, and it asks
for exactly what was refused (`updateAddresses_retries`).

Whether a second snapshot wants the same is another matter. Another order of its entries does not
change what is wanted as long as entries about one address and length agree. Another time does: a
deprecated address carries the time of the snapshot that asked for it, so the same snapshot at
another time asks for another address under the same key. It removes the deprecated addresses and
adds them again, and leaves all others alone (`Reaches.repeated_snapshot`). -/

namespace MeshLink

namespace Controller

variable {σ : Type} [Host σ] {c : Controller} {snapshot : List AddressReport}

namespace Reconciles

variable {s s' : Shared σ} {t : Reconciliation}

/-- Where the wanted groups are mirrored and no others, no group is asked about. -/
theorem groupCalls_eq_nil (h : c.Reconciles snapshot s t s')
    (same : ∀ g, g ∈ c.groups ↔ g ∈ desiredGroups snapshot) : t.groupCalls = [] := by
  have leaves : t.leaves = [] := by
    rw [← List.map_eq_nil_iff (f := Prod.fst), h.left, Diff.without_eq_nil]
    exact fun g hg => (same g).1 hg
  have joins : t.joins = [] := by
    rw [← List.map_eq_nil_iff (f := Prod.fst), h.joined, Diff.without_eq_nil]
    exact fun g hg => (same g).2 hg
  simp [Reconciliation.groupCalls, leaves, joins]

theorem calls_of_same_groups {s s' : Shared (Recorded σ)} (h : c.Reconciles snapshot s t s')
    (same : ∀ g, g ∈ c.groups ↔ g ∈ desiredGroups snapshot) :
    s'.host.calls = s.host.calls ++ Request.calls t.ifIndex s.sequence t.requests := by
  rw [h.calls_eq, Reconciliation.calls, h.groupCalls_eq_nil same, List.append_nil]

theorem ifIndex_eq (h : c.Reconciles snapshot s t s') {r : Resources}
    (held : c.resources = some r) : t.ifIndex = r.ifIndex :=
  Option.some.inj (h.index.symm.trans (ifIndex_eq_some held))

/-- What is mirrored as it is wanted is not asked for, so it is not refused. -/
theorem isRefused_of_mirrored (h : c.Reconciles snapshot s t s') {a : LinkAddress}
    (wanted : a ∈ desired snapshot t.now) (mirrored : a ∈ c.inventory.addresses)
    (seq : UInt32) : isRefused (t.calls seq) a = false := by
  have unasked : t.requests.filter
      (Request.isAbout Netlink.MessageType.newAddress a.key) = [] := by
    refine List.filter_eq_nil_iff.2 fun q hq about => ?_
    simp only [Request.isAbout, Bool.and_eq_true, decide_eq_true_eq] at about
    obtain ⟨type, key⟩ := about
    rcases List.mem_append.1 hq with hq | hq
    · rw [Request.type, h.removals q hq] at type
      exact absurd type.symm Netlink.MessageType.newAddress_ne_delAddress
    · have added : q.address ∈ t.additions.map Request.address := List.mem_map_of_mem hq
      rw [h.added, Diff.mem_without] at added
      -- The addition is wanted and has the same key, so it would be the mirrored address itself.
      rw [(Desired.keysUnique_addresses _ t.now).eq_of_key_eq added.1 wanted key] at added
      exact added.2 mirrored
  rw [isRefused, Reconciliation.calls, answers_append, t.answers_groupCalls, List.append_nil,
    Request.answers_requests, unasked]
  rfl

/-- After a snapshot is mirrored what it wants, except what was refused. -/
theorem mem_addresses_iff (h : c.Reconciles snapshot s t s') (a : LinkAddress) :
    a ∈ (c.reconciled snapshot t).inventory.addresses ↔
      a ∈ desired snapshot t.now ∧ isRefused (t.calls s.sequence) a = false := by
  rw [h.mem_addresses]
  refine and_congr_right fun wanted => ?_
  by_cases mirrored : a ∈ c.inventory.addresses
  · simp [mirrored, h.isRefused_of_mirrored wanted mirrored]
  · simp [mirrored]

theorem mem_addresses_of_accepted (h : c.Reconciles snapshot s t s')
    (accepted : ∀ a ∈ desired snapshot t.now, isRefused (t.calls s.sequence) a = false)
    (a : LinkAddress) :
    a ∈ (c.reconciled snapshot t).inventory.addresses ↔ a ∈ desired snapshot t.now := by
  rw [h.mem_addresses_iff]
  exact and_iff_left_of_imp (accepted a)

end Reconciles

/-! ## The same snapshot at another time -/

/-- A snapshot of addresses goes by without a trace: nobody is asked for anything, no number is
    taken, and what is remembered stays as it is. -/
structure PassesOver (c : Controller) (snapshot : List AddressReport) (s : Shared (Recorded σ)) :
    Prop where
  calls : (c.updateAddresses snapshot s).2.host.calls = s.host.calls
  sequence : (c.updateAddresses snapshot s).2.sequence = s.sequence
  controller : (c.updateAddresses snapshot s).1 = c

/-- Where the groups are those of the snapshot, it goes by exactly if it makes no request. -/
theorem Reconciles.passesOver_iff {s : Shared (Recorded σ)} {t : Reconciliation}
    (h : c.Reconciles snapshot s t (c.updateAddresses snapshot s).2)
    (hc : (c.updateAddresses snapshot s).1 = c.reconciled snapshot t)
    (groups : c.groups = Diff.distinct (desiredGroups snapshot)) :
    c.PassesOver snapshot s ↔ t.requests = [] := by
  have calls := h.calls_of_same_groups fun g => by rw [groups, Diff.mem_distinct]
  constructor
  · intro still
    rw [still.calls, List.self_eq_append_right] at calls
    cases requests : t.requests with
    | nil => rfl
    | cons q qs =>
        rw [requests, Request.calls] at calls
        cases calls
  · intro none
    rw [none] at calls
    exact {
      calls := by rw [calls, Request.calls, List.append_nil]
      sequence := by
        rw [h.sequence, none]
        exact UInt32.add_zero _
      controller := by rw [hc, reconciled, none, after_nil, ← groups] }

namespace Reconciles

variable {s s' s₁ s₁' : Shared σ} {t t₁ : Reconciliation}

theorem removed_again (h₁ : (c.reconciled snapshot t).Reconciles snapshot s₁ t₁ s₁')
    (h : c.Reconciles snapshot s t s')
    (accepted : ∀ a ∈ desired snapshot t.now, isRefused (t.calls s.sequence) a = false)
    (unique : LinkAddress.KeysUnique (c.reconciled snapshot t).inventory.addresses) :
    t₁.removals.map Request.address = (c.reconciled snapshot t).inventory.addresses.filter
      fun a => t₁.now ≠ t.now ∧ a.isDeprecated := by
  rw [h₁.removed_eq unique]
  refine List.filter_congr fun a ha => decide_eq_decide.2 ?_
  have wanted := (h.mem_addresses_of_accepted accepted a).1 ha
  rw [desired, Desired.mem_addresses_later wanted]
  simp

theorem added_again (h₁ : (c.reconciled snapshot t).Reconciles snapshot s₁ t₁ s₁')
    (h : c.Reconciles snapshot s t s')
    (accepted : ∀ a ∈ desired snapshot t.now, isRefused (t.calls s.sequence) a = false) :
    t₁.additions.map Request.address =
      (desired snapshot t₁.now).filter fun a => t₁.now ≠ t.now ∧ a.isDeprecated := by
  rw [h₁.added_eq]
  refine List.filter_congr fun a wanted => decide_eq_decide.2 ?_
  rw [h.mem_addresses_of_accepted accepted, desired, Desired.mem_addresses_later wanted]
  simp [eq_comm (a := t.now) (b := t₁.now)]

end Reconciles

/-- **A snapshot that is repeated.** Once all that it wants is there, whatever became of removals
    and groups, the same snapshot makes no group call at any later time. If the clock shows another
    time, it removes the deprecated addresses and adds them again with that time, and asks for
    nothing else. So it goes by without a trace exactly if the clock shows the same time or no
    wanted address is deprecated. -/
theorem Reaches.repeated_snapshot
    {between : Shared (Recorded σ) → Shared (Recorded σ) → Prop} {config : Config}
    {start s : Shared (Recorded σ)} (reach : Reaches between config start c s) {r : Resources}
    (held : c.resources = some r) (snapshot : List AddressReport) {log : List Call}
    (issued : (c.updateAddresses snapshot s).2.host.calls = s.host.calls ++ log)
    (accepted : ∀ a ∈ Desired.addresses (AddressReport.entries snapshot) (Host.now s.host).1,
      isRefused log a = false)
    (s₁ : Shared (Recorded σ)) :
    let now := (Host.now s.host).1
    let later := (Host.now s₁.host).1
    let entries := AddressReport.entries snapshot
    let c₁ := (c.updateAddresses snapshot s).1
    (∃ removals additions : List Request,
      (c₁.updateAddresses snapshot s₁).2.host.calls =
        s₁.host.calls ++ Request.calls r.ifIndex s₁.sequence (removals ++ additions) ∧
      (∀ q ∈ removals, q.isRemoval = true) ∧
      removals.map Request.address =
        c₁.inventory.addresses.filter (fun a => later ≠ now ∧ a.isDeprecated) ∧
      (∀ q ∈ additions, q.isRemoval = false) ∧
      additions.map Request.address =
        (Desired.addresses entries later).filter fun a => later ≠ now ∧ a.isDeprecated) ∧
    (c₁.PassesOver snapshot s₁ ↔
      later = now ∨ ∀ a ∈ Desired.addresses entries now, a.isDeprecated = false) := by
  intro now later entries c₁
  obtain ⟨t, step, hc⟩ := updateAddresses_reconciles held snapshot s
  obtain rfl : t.calls s.sequence = log := List.append_cancel_left (step.calls_eq.symm.trans issued)
  have reach₁ : Reaches between config start c₁ _ := reach.operate (.addresses snapshot)
  have held₁ : (c.reconciled snapshot t).resources = some r := by rw [resources_reconciled, held]
  obtain ⟨t₁, step₁, hc₁⟩ := updateAddresses_reconciles held₁ snapshot s₁
  simp only [now, later, entries, c₁, hc, step.clock, step₁.clock] at accepted reach₁ ⊢
  have calls := step₁.calls_of_same_groups fun g => Diff.mem_distinct
  rw [step₁.ifIndex_eq held₁] at calls
  have removed := step₁.removed_again step accepted reach₁.keysUnique
  have added := step₁.added_again step accepted
  constructor
  · exact ⟨t₁.removals, t₁.additions, calls, step₁.removals, removed, step₁.additions, added⟩
  · rw [step₁.passesOver_iff hc₁ rfl, Reconciliation.requests, List.append_eq_nil_iff,
      ← List.map_eq_nil_iff (f := Request.address), removed,
      ← List.map_eq_nil_iff (f := Request.address) (l := t₁.additions), added]
    by_cases moved : t₁.now = t.now
    · simp [moved]
    · have mirrored := step.mem_addresses_of_accepted accepted
      have preferred := Desired.forall_preferred_later (AddressReport.entries snapshot) t.now t₁.now
      simp [moved, mirrored, desired, preferred]

/-- An address that is reported as preferred and then not, and one that is preferred. A second
    later the first one alone is removed and added again. -/
theorem repeated_snapshot_of_two :
    let start : Shared (Recorded MemoryKernel) := ⟨0, MemoryKernel.idle 5000, []⟩
    let ops : List Operation :=
      [.start ⟨Config.defaultInterface⟩, .addresses [.numbered 1 true, .numbered 3 true]]
    let c := ((new .default).run start ops).1
    let s := ((new .default).run start ops).2
    let snapshot : List AddressReport :=
      [.numbered 2 true, .numbered 1 true, .numberedGroup 1, .numbered 2 false]
    let r : Resources := ⟨⟨Config.defaultInterface⟩, MemoryKernel.defaultIndex⟩
    let log := (c.updateAddresses snapshot s).2.host.calls.drop s.host.calls.length
    let deprecated (now : Int64) : LinkAddress := .of (.numbered 2) 64 (.at now) .permanent
    let s₁ := { (c.updateAddresses snapshot s).2 with host.host.time := 6000 }
    Reaches (fun s s' => s' = s) .default start c s ∧ c.resources = some r ∧
      (c.updateAddresses snapshot s).2.host.calls = s.host.calls ++ log ∧
      (∀ a ∈ Desired.addresses (AddressReport.entries snapshot) (Host.now s.host).1,
        isRefused log a = false) ∧
      (c.updateAddresses snapshot s).1.inventory.addresses = [.numbered 1, deprecated 5000] ∧
      (∃ removals additions : List Request,
        ((c.updateAddresses snapshot s).1.updateAddresses snapshot s₁).2.host.calls =
          s₁.host.calls ++ Request.calls r.ifIndex s₁.sequence (removals ++ additions) ∧
        (∀ q ∈ removals, q.isRemoval = true) ∧
        removals.map Request.address = [deprecated 5000] ∧
        (∀ q ∈ additions, q.isRemoval = false) ∧
        additions.map Request.address = [deprecated 6000]) ∧
      ¬ (c.updateAddresses snapshot s).1.PassesOver snapshot s₁ := by
  intro start ops c s snapshot r log deprecated s₁
  have reach : Reaches (fun s s' => s' = s) .default start c s := Reaches.run ops .new
  have held : c.resources = some r := by decide +kernel
  have issued : (c.updateAddresses snapshot s).2.host.calls = s.host.calls ++ log := by
    decide +kernel
  have accepted : ∀ a ∈ Desired.addresses (AddressReport.entries snapshot) (Host.now s.host).1,
      isRefused log a = false := by
    decide +kernel
  obtain ⟨⟨removals, additions, calls, hr, removed, ha, added⟩, still⟩ :=
    reach.repeated_snapshot held snapshot issued accepted s₁
  refine ⟨reach, held, issued, accepted, by decide +kernel, ⟨removals, additions, calls, hr,
    removed.trans (by decide +kernel), ha, added.trans (by decide +kernel)⟩, mt still.1 ?_⟩
  decide +kernel

/-- An address that is not preferred was added. A second later the same snapshot removes it from the
    kernel and adds it again. -/
theorem deprecated_address_renewed :
    let start : Shared SessionHost := ⟨0, ⟨.of (.idle 5000), []⟩⟩
    let c := ((new .default).run start [.start ⟨Config.defaultInterface⟩]).1
    let s := ((new .default).run start [.start ⟨Config.defaultInterface⟩]).2
    let snapshot : List AddressReport := [.numbered 1 false]
    let deprecated (now : Int64) : LinkAddress := .of (.numbered 1) 64 (.at now) .permanent
    let c₁ := (c.updateAddresses snapshot s).1
    let s₁ := (c.updateAddresses snapshot s).2
    let later := { s₁ with host.host.host.time := 6000 }
    Reaches (fun s s' => s' = s) .default start c s ∧
      c.resources = some ⟨⟨Config.defaultInterface⟩, MemoryKernel.defaultIndex⟩ ∧
      s₁.host.calls = s.host.calls ++
        [(Request.addition (deprecated 5000) 5000 (.ok ())).call MemoryKernel.defaultIndex 0] ∧
      (c₁.updateAddresses snapshot later).2.host.calls = s₁.host.calls ++
        [(Request.removal (deprecated 5000) (.ok ())).call MemoryKernel.defaultIndex 1,
          (Request.addition (deprecated 6000) 6000 (.ok ())).call MemoryKernel.defaultIndex 2] ∧
      c₁.inventory.addresses = [deprecated 5000] ∧
      (c₁.updateAddresses snapshot later).1.inventory.addresses = [deprecated 6000] ∧
      ¬ c₁.PassesOver snapshot later := by
  intro start c s snapshot deprecated c₁ s₁ later
  have sequence : (c₁.updateAddresses snapshot later).2.sequence ≠ later.sequence := by
    decide +kernel
  exact ⟨Reaches.run _ .new, by decide +kernel, by decide +kernel, by decide +kernel,
    by decide +kernel, by decide +kernel, fun still => sequence still.sequence⟩

/-! ## The same snapshot in another order -/

theorem updateAddresses_of_none (none : c.resources = none) (snapshot : List AddressReport)
    (s : Shared σ) : c.updateAddresses snapshot s = (c, s) := by
  simp only [updateAddresses, none, Option.isNone_none, if_true, LinkM.pure_run]

namespace Reconciles

variable {s s' s₁ s₁' : Shared σ} {t t₁ : Reconciliation} {again : List AddressReport}

theorem removals_eq_nil (h₁ : (c.reconciled snapshot t).Reconciles again s₁ t₁ s₁')
    (h : c.Reconciles snapshot s t s')
    (same : ∀ a, a ∈ desired again t₁.now ↔ a ∈ desired snapshot t.now) : t₁.removals = [] := by
  rw [← List.map_eq_nil_iff (f := Request.address), h₁.removed, Diff.without_eq_nil]
  intro a mirrored
  exact (same a).2 ((h.mem_addresses_iff a).1 mirrored).1

theorem added_eq_refused (h₁ : (c.reconciled snapshot t).Reconciles again s₁ t₁ s₁')
    (h : c.Reconciles snapshot s t s')
    (same : ∀ a, a ∈ desired again t₁.now ↔ a ∈ desired snapshot t.now) :
    t₁.additions.map Request.address =
      (desired again t₁.now).filter (isRefused (t.calls s.sequence)) := by
  rw [h₁.added_eq]
  refine List.filter_congr fun a wanted => ?_
  simp [h.mem_addresses_iff, (same a).1 wanted]

end Reconciles

/-- **A snapshot that is reordered.** The usable entries of a snapshot agree where they are about
    one address and length, and its requests and group calls go in any way. If the same entries come
    again in any order at the same time, they want the same addresses. No address is removed and no
    group is asked about; exactly what was refused is asked for, each address once, and goes behind
    what is mirrored, which stays as it is. -/
theorem updateAddresses_retries (c : Controller) {snapshot again : List AddressReport}
    (agree : Desired.Agree (AddressReport.entries snapshot)) (perm : again.Perm snapshot)
    {s : Shared (Recorded σ)} {log : List Call}
    (issued : (c.updateAddresses snapshot s).2.host.calls = s.host.calls ++ log)
    {s₁ : Shared (Recorded σ)} (clock : (Host.now s₁.host).1 = (Host.now s.host).1) :
    let wanted := Desired.addresses (AddressReport.entries again) (Host.now s₁.host).1
    let c₁ := (c.updateAddresses snapshot s).1
    wanted.Nodup ∧
    (∀ a, a ∈ wanted ↔
      a ∈ Desired.addresses (AddressReport.entries snapshot) (Host.now s.host).1) ∧
    ∃ (ifIndex : UInt32) (retries : List Request),
      (c₁.updateAddresses again s₁).2.host.calls =
        s₁.host.calls ++ Request.calls ifIndex s₁.sequence retries ∧
      (∀ r, c.resources = some r → ifIndex = r.ifIndex) ∧
      (∀ q ∈ retries, q.isRemoval = false) ∧
      retries.map Request.address = wanted.filter (isRefused log) ∧
      (c₁.updateAddresses again s₁).1.inventory.addresses =
        c₁.inventory.addresses ++ (retries.filter Request.isGranted).map Request.address := by
  intro wanted c₁
  have same : ∀ a, a ∈ wanted ↔
      a ∈ Desired.addresses (AddressReport.entries snapshot) (Host.now s.host).1 := by
    intro a
    simp only [wanted, clock]
    exact Desired.mem_addresses_perm agree (AddressReport.entries_perm perm)
  refine ⟨(Desired.keysUnique_addresses _ _).nodup, same, ?_⟩
  cases held : c.resources with
  | none =>
      have once := updateAddresses_of_none held snapshot s
      rw [once, List.self_eq_append_right] at issued
      simp only [c₁, once, updateAddresses_of_none held again s₁, issued]
      refine ⟨0, [], by simp [Request.calls], by simp, by simp, ?_, by simp⟩
      simp [isRefused, answers]
  | some r =>
      obtain ⟨t, step, hc⟩ := updateAddresses_reconciles held snapshot s
      obtain rfl : t.calls s.sequence = log :=
        List.append_cancel_left (step.calls_eq.symm.trans issued)
      have held₁ : (c.reconciled snapshot t).resources = some r := by
        rw [resources_reconciled, held]
      obtain ⟨t₁, step₁, hc₁⟩ := updateAddresses_reconciles held₁ again s₁
      simp only [wanted, c₁, hc, hc₁, step.clock, step₁.clock] at same ⊢
      have calls := step₁.calls_of_same_groups fun g =>
        Diff.mem_distinct.trans (Desired.mem_groups_perm (AddressReport.entries_perm perm)).symm
      -- What is mirrored now is what both snapshots want, except what was refused.
      have kept : t₁.removals = [] := step₁.removals_eq_nil step same
      refine ⟨r.ifIndex, t₁.additions, ?_, ?_, step₁.additions,
        step₁.added_eq_refused step same, ?_⟩
      · rw [calls, step₁.ifIndex_eq held₁, Reconciliation.requests, kept, List.nil_append]
      · intro r' same
        rw [Option.some.inj same]
      · rw [step₁.addresses_eq, List.filter_eq_self.2]
        intro a mirrored
        exact decide_eq_true ((same a).2 ((step.mem_addresses_iff a).1 mirrored).1)

/-- Three addresses and a group come twice, the second time in reverse. The kernel refuses two of
    the addresses at first and one of them again. -/
theorem retries_of_two_refused :
    let start : Shared (Recorded MemoryKernel) :=
      ⟨0, { MemoryKernel.idle 0 with failingSends := [1, 2, 4] }, []⟩
    let c := ((new .default).run start [.start ⟨Config.defaultInterface⟩]).1
    let s := ((new .default).run start [.start ⟨Config.defaultInterface⟩]).2
    let snapshot : List AddressReport := [.numbered 1 true, .numberedGroup 1, .numbered 2 false,
      .numbered 3 true, .numbered 2 false]
    let log := (c.updateAddresses snapshot s).2.host.calls.drop s.host.calls.length
    let s₁ := (c.updateAddresses snapshot s).2
    let deprecated : LinkAddress := .of (.numbered 2) 64 (.at 0) .permanent
    Desired.Agree (AddressReport.entries snapshot) ∧ snapshot.reverse.Perm snapshot ∧
      (c.updateAddresses snapshot s).2.host.calls = s.host.calls ++ log ∧
      (Host.now s₁.host).1 = (Host.now s.host).1 ∧
      (c.updateAddresses snapshot s).1.inventory.addresses = [.numbered 1] ∧
      (∃ (ifIndex : UInt32) (retries : List Request),
        ((c.updateAddresses snapshot s).1.updateAddresses snapshot.reverse s₁).2.host.calls =
          s₁.host.calls ++ Request.calls ifIndex s₁.sequence retries ∧
        (∀ r, c.resources = some r → ifIndex = r.ifIndex) ∧
        (∀ q ∈ retries, q.isRemoval = false) ∧
        retries.map Request.address = [deprecated, .numbered 3]) ∧
      ((c.updateAddresses snapshot s).1.updateAddresses snapshot.reverse s₁).1.inventory.addresses =
        [.numbered 1, deprecated] := by
  intro start c s snapshot log s₁ deprecated
  have agree : Desired.Agree (AddressReport.entries snapshot) := by decide +kernel
  have perm : snapshot.reverse.Perm snapshot := snapshot.reverse_perm
  have issued : (c.updateAddresses snapshot s).2.host.calls = s.host.calls ++ log := by
    decide +kernel
  have clock : (Host.now s₁.host).1 = (Host.now s.host).1 := by decide +kernel
  obtain ⟨-, -, ifIndex, retries, calls, index, additions, refused, -⟩ :=
    c.updateAddresses_retries agree perm issued clock
  exact ⟨agree, perm, issued, clock, by decide +kernel, ⟨ifIndex, retries, calls, index, additions,
    refused.trans (by decide +kernel)⟩, by decide +kernel⟩

end Controller
end MeshLink
