import MeshLink.Proofs.Discipline
import MeshLink.Proofs.Replay
set_option autoImplicit false

/-! # What the next snapshot makes good

After failures the kernel holds something else than what is wanted. A snapshot whose calls succeed
brings in line what it asks about, and it asks only where the mirror differs from what is wanted. So
a failure is made good exactly if the mirror shows it.

A refused addition is not mirrored, so it is asked for again. A removal is forgotten before the
kernel is asked, so one that failed leaves behind what nobody asks about any more (`LeftBehind`).
Groups are mirrored whatever the joins came to, so one that failed stays out as long as it is
wanted (`LeftOut`). The mirror is what the log ends with (`Ends`), the kernel what ends the
successes in it (`EndsDone`), so the log decides. -/

namespace MeshLink

/-! ## Where mirror and kernel part -/

/-- The last success about a key was an addition, but the last request was none that was granted:
    the kernel holds what the controller takes to be gone. -/
def LeftBehind (key : Ipv6 × UInt8) (calls : List Call) : Prop :=
  EndsDone .granted (keyTurns key calls) ∧ ¬ Ends .granted (keyTurns key calls)

/-- The last request about a key was an addition that found it there, but the last success was no
    addition: the controller takes to be there what the kernel does not hold. -/
def Presumed (key : Ipv6 × UInt8) (calls : List Call) : Prop :=
  Ends .granted (keyTurns key calls) ∧ ¬ EndsDone .granted (keyTurns key calls)

/-- The last call about a group was a join, but the last success was none. -/
def LeftOut (g : Ipv6) (calls : List Call) : Prop :=
  Ends .joined (groupSteps g calls) ∧ ¬ EndsDone .joined (groupSteps g calls)

namespace Controller

/-! ## The mirror by the log -/

namespace Disciplined

variable {c : Controller} {calls : List Call}

theorem ends_granted_iff (h : c.Disciplined calls) (key : Ipv6 × UInt8) :
    Ends .granted (keyTurns key calls) ↔ key ∈ c.inventory.addresses.map LinkAddress.key := by
  rw [h.mem_keys_iff]
  unfold Ends keyTurns
  simp

theorem ends_joined_iff (h : c.Disciplined calls) (g : Ipv6) :
    Ends .joined (groupSteps g calls) ↔ g ∈ c.groups := by
  rw [h.mem_groups_iff]
  unfold Ends groupSteps
  simp

end Disciplined

variable {σ : Type} [Host σ] {c : Controller} {snapshot : List AddressReport}

namespace Reconciles

variable {s s' : Shared σ} {t : Reconciliation}

/-- If no request fails, exactly what is wanted is mirrored. -/
theorem mem_keys_of_clean (h : c.Reconciles snapshot s t s')
    (clean : ∀ octets n outcome, .send octets n outcome ∈ t.calls s.sequence → outcome = .ok ())
    (key : Ipv6 × UInt8) :
    key ∈ (c.reconciled snapshot t).inventory.addresses.map LinkAddress.key ↔
      key ∈ Desired.keys (AddressReport.entries snapshot) := by
  have accepted : ∀ a, isRefused (t.calls s.sequence) a = false := by
    intro a
    refine List.any_eq_false.2 ?_
    intro outcome told
    obtain ⟨octets, n, sent⟩ := mem_answers told
    rw [clean octets n outcome sent]
    decide
  have wanted : key ∈ (desired snapshot t.now).map LinkAddress.key ↔
      key ∈ Desired.keys (AddressReport.entries snapshot) := Desired.mem_map_key_addresses
  rw [← wanted, List.mem_map, List.mem_map]
  refine exists_congr ?_
  intro a
  rw [h.mem_addresses, accepted]
  simp

/-- Nothing is asked about what is neither mirrored nor wanted. -/
theorem unasked_of_absent (h : c.Reconciles snapshot s t s') {key : Ipv6 × UInt8}
    (new : key ∉ c.inventory.addresses.map LinkAddress.key)
    (unwanted : key ∉ Desired.keys (AddressReport.entries snapshot)) (seq : UInt32) :
    askedAbout key (t.calls seq) = [] := by
  refine (h.askedAbout_eq_nil_iff key seq).2 ?_
  rintro a rfl
  refine iff_of_false (fun ha => new (List.mem_map_of_mem ha)) ?_
  intro ha
  exact unwanted (Desired.mem_map_key_addresses.1 (List.mem_map_of_mem ha))

/-- Nothing is asked about what is mirrored as it is wanted. -/
theorem unasked_of_kept (h : c.Reconciles snapshot s t s')
    (unique : LinkAddress.KeysUnique c.inventory.addresses) {a : LinkAddress}
    (mirrored : a ∈ c.inventory.addresses) (wanted : a ∈ desired snapshot t.now) (seq : UInt32) :
    askedAbout a.key (t.calls seq) = [] := by
  refine (h.askedAbout_eq_nil_iff a.key seq).2 ?_
  intro b same
  constructor
  · intro hb
    rwa [unique.eq_of_key_eq hb mirrored same]
  · intro hb
    rwa [(Desired.keysUnique_addresses _ t.now).eq_of_key_eq hb wanted same]

end Reconciles

/-! ## Addresses -/

variable {config : Config} {start s : Shared SessionHost} {c : Controller}

/-- After a snapshot whose requests all succeed the kernel holds a key exactly if it is wanted,
    unless nothing was asked about it; then it holds it exactly if it did before. -/
theorem Reaches.mem_addresses_of_clean
    (reach : Reaches (fun s s' => s'.host.kernel.addresses = s.host.kernel.addresses ∧
      s'.host.calls = s.host.calls) config start c s)
    (empty : start.host.kernel.addresses = []) (silent : start.host.calls = [])
    {t : Reconciliation} (step : c.Reconciles snapshot s t (c.updateAddresses snapshot s).2)
    (hc : (c.updateAddresses snapshot s).1 = c.reconciled snapshot t)
    (clean : ∀ octets n outcome, .send octets n outcome ∈ t.calls s.sequence → outcome = .ok ())
    (key : Ipv6 × UInt8) :
    (askedAbout key (t.calls s.sequence) ≠ [] →
      (key ∈ (c.updateAddresses snapshot s).2.host.kernel.addresses ↔
        key ∈ Desired.keys (AddressReport.entries snapshot))) ∧
    (askedAbout key (t.calls s.sequence) = [] →
      (key ∈ (c.updateAddresses snapshot s).2.host.kernel.addresses ↔
        EndsDone .granted (keyTurns key s.host.calls)) ∧
      (key ∈ Desired.keys (AddressReport.entries snapshot) ↔
        Ends .granted (keyTurns key s.host.calls))) := by
  have after : Reaches _ config start (c.updateAddresses snapshot s).1
      (c.updateAddresses snapshot s).2 := reach.operate (.addresses snapshot)
  have held := after.mem_addresses_iff id empty silent key
  have mirrored := (after.disciplined And.right silent).ends_granted_iff key
  rw [hc, step.mem_keys_of_clean clean, step.calls_eq, keyTurns_append] at mirrored
  rw [step.calls_eq, keyTurns_append] at held
  constructor
  · intro asked
    rw [held, ← mirrored]
    refine endsDone_append_of_done ?_ (mt List.map_eq_nil_iff.1 asked)
    intro x hx
    obtain ⟨q, hq, rfl⟩ := List.mem_map.1 hx
    obtain ⟨octets, n, sent, -⟩ := mem_askedAbout hq
    show q.outcome.isOk = true
    rw [clean octets n _ sent]
    rfl
  · intro unasked
    have none : keyTurns key (t.calls s.sequence) = [] := List.map_eq_nil_iff.2 unasked
    rw [none, List.append_nil] at held mirrored
    exact ⟨held, mirrored.symm⟩

/-- **Which failures about addresses the next snapshot makes good.** A controller is on a kernel
    that starts without addresses and whose addresses nobody else changes; any requests have failed
    in any way, and then a snapshot is applied without a failing request. All that it wants and that
    was not mirrored is in the kernel, so a failed addition is made good. What is in the kernel is
    exactly what is wanted if and only if nothing unwanted was left behind, and nothing that stays
    as it is mirrored was only presumed. -/
theorem Reaches.addresses_heal_iff
    (reach : Reaches (fun s s' => s'.host.kernel.addresses = s.host.kernel.addresses ∧
      s'.host.calls = s.host.calls) config start c s)
    (empty : start.host.kernel.addresses = []) (silent : start.host.calls = [])
    {r : Resources} (resources : c.resources = some r) (snapshot : List AddressReport)
    {log : List Call}
    (issued : (c.updateAddresses snapshot s).2.host.calls = s.host.calls ++ log)
    (clean : ∀ octets n outcome, .send octets n outcome ∈ log → outcome = .ok ()) :
    (∀ key ∈ Desired.keys (AddressReport.entries snapshot),
      key ∉ c.inventory.addresses.map LinkAddress.key →
        key ∈ (c.updateAddresses snapshot s).2.host.kernel.addresses) ∧
    ((∀ key, key ∈ (c.updateAddresses snapshot s).2.host.kernel.addresses ↔
        key ∈ Desired.keys (AddressReport.entries snapshot)) ↔
      (∀ key, key ∉ Desired.keys (AddressReport.entries snapshot) →
        ¬ LeftBehind key s.host.calls) ∧
      ∀ a ∈ c.inventory.addresses,
        a ∈ Desired.addresses (AddressReport.entries snapshot) (Host.now s.host).1 →
          ¬ Presumed a.key s.host.calls) := by
  obtain ⟨t, step, hc⟩ := updateAddresses_reconciles resources snapshot s
  obtain rfl : t.calls s.sequence = log := List.append_cancel_left (step.calls_eq.symm.trans issued)
  rw [step.clock]
  have made := reach.mem_addresses_of_clean empty silent step hc clean
  have mirrored := (reach.disciplined And.right silent).ends_granted_iff
  refine ⟨?_, ?_, ?_⟩
  · intro key wanted new
    by_cases asked : askedAbout key (t.calls s.sequence) = []
    · -- Nothing is asked about a wanted key only if it is mirrored.
      obtain ⟨-, last⟩ := (made key).2 asked
      exact absurd ((mirrored key).1 (last.1 wanted)) new
    · exact ((made key).1 asked).2 wanted
  · intro inLine
    constructor
    · rintro key unwanted ⟨done, last⟩
      have unasked := step.unasked_of_absent (mt (mirrored key).2 last) unwanted s.sequence
      exact unwanted ((inLine key).1 (((made key).2 unasked).1.2 done))
    · rintro a ha wanted ⟨last, done⟩
      have unasked := step.unasked_of_kept reach.keysUnique ha wanted s.sequence
      obtain ⟨held, ends⟩ := (made a.key).2 unasked
      exact done (held.1 ((inLine a.key).2 (ends.2 last)))
  · rintro ⟨behind, presumed⟩ key
    by_cases asked : askedAbout key (t.calls s.sequence) = []
    · obtain ⟨held, ends⟩ := (made key).2 asked
      rw [held, ends]
      constructor
      · intro done
        by_contra last
        exact behind key (mt ends.1 last) ⟨done, last⟩
      · intro last
        by_contra done
        obtain ⟨a, ha, rfl⟩ := List.mem_map.1 ((mirrored key).1 last)
        have wanted := ((step.askedAbout_eq_nil_iff a.key s.sequence).1 asked a rfl).1 ha
        exact presumed a ha wanted ⟨last, done⟩
    · exact (made key).1 asked

/-- One address is refused at first and another one cannot be removed; a snapshot that wants both
    makes both good. -/
theorem addresses_heal_of_refused_and_left :
    let start : Shared SessionHost :=
      ⟨0, ⟨⟨.idle 0, [some .half, none, some (.errno Errno.inputOutput)], []⟩, []⟩⟩
    let ops : List Operation := [.start ⟨Config.defaultInterface⟩,
      .addresses [.numbered 1 true, .numbered 2 true], .addresses []]
    let c := ((new .default).run start ops).1
    let s := ((new .default).run start ops).2
    let r : Resources := ⟨⟨Config.defaultInterface⟩, MemoryKernel.defaultIndex⟩
    let snapshot : List AddressReport := [.numbered 1 true, .numbered 2 true]
    let log : List Call := [
      (Request.addition (.numbered 1) 0 (.ok ())).call r.ifIndex 3,
      (Request.addition (.numbered 2) 0 (.ok ())).call r.ifIndex 4]
    Reaches (fun s s' => s'.host.kernel.addresses = s.host.kernel.addresses ∧
        s'.host.calls = s.host.calls) .default start c s ∧
      start.host.kernel.addresses = [] ∧ start.host.calls = [] ∧ c.resources = some r ∧
      (c.updateAddresses snapshot s).2.host.calls = s.host.calls ++ log ∧
      (∀ octets n outcome, .send octets n outcome ∈ log → outcome = .ok ()) ∧
      c.inventory.addresses = [] ∧ s.host.kernel.addresses = [(.numbered 2, 64)] ∧
      (c.updateAddresses snapshot s).2.host.kernel.addresses =
        [(.numbered 2, 64), (.numbered 1, 64)] ∧
      (∀ key ∈ Desired.keys (AddressReport.entries snapshot),
        key ∉ c.inventory.addresses.map LinkAddress.key →
          key ∈ (c.updateAddresses snapshot s).2.host.kernel.addresses) ∧
      ((∀ key, key ∈ (c.updateAddresses snapshot s).2.host.kernel.addresses ↔
          key ∈ Desired.keys (AddressReport.entries snapshot)) ↔
        (∀ key, key ∉ Desired.keys (AddressReport.entries snapshot) →
          ¬ LeftBehind key s.host.calls) ∧
        ∀ a ∈ c.inventory.addresses,
          a ∈ Desired.addresses (AddressReport.entries snapshot) (Host.now s.host).1 →
            ¬ Presumed a.key s.host.calls) := by
  intro start ops c s r snapshot log
  have reach : Reaches (fun s s' => s'.host.kernel.addresses = s.host.kernel.addresses ∧
      s'.host.calls = s.host.calls) .default start c s := Reaches.run ops .new
  have held : c.resources = some r := by decide +kernel
  have issued : (c.updateAddresses snapshot s).2.host.calls = s.host.calls ++ log := by
    decide +kernel
  have clean : ∀ octets n outcome, .send octets n outcome ∈ log → outcome = .ok () := by
    intro octets n outcome sent
    simp only [log, Request.call, List.mem_cons, Call.send.injEq, List.not_mem_nil, or_false]
      at sent
    rcases sent with ⟨-, -, rfl⟩ | ⟨-, -, rfl⟩ <;> rfl
  exact ⟨reach, rfl, rfl, held, issued, clean, by decide +kernel, by decide +kernel,
    by decide +kernel, reach.addresses_heal_iff rfl rfl held snapshot issued clean⟩

/-- An address cannot be removed. It stays in the kernel, although the next snapshot does not want
    it and all of its requests succeed. -/
theorem address_left_behind :
    let start : Shared SessionHost :=
      ⟨0, ⟨⟨.idle 0, [none, some (.errno Errno.inputOutput)], []⟩, []⟩⟩
    let ops : List Operation := [.start ⟨Config.defaultInterface⟩,
      .addresses [.numbered 1 true], .addresses []]
    let c := ((new .default).run start ops).1
    let s := ((new .default).run start ops).2
    let snapshot : List AddressReport := [.numbered 2 true]
    Reaches (fun s s' => s'.host.kernel.addresses = s.host.kernel.addresses ∧
        s'.host.calls = s.host.calls) .default start c s ∧
      start.host.kernel.addresses = [] ∧ start.host.calls = [] ∧
      c.resources = some ⟨⟨Config.defaultInterface⟩, MemoryKernel.defaultIndex⟩ ∧
      (c.updateAddresses snapshot s).2.host.calls = s.host.calls ++
        [(Request.addition (.numbered 2) 0 (.ok ())).call MemoryKernel.defaultIndex 2] ∧
      (c.updateAddresses snapshot s).2.host.kernel.addresses =
        [(.numbered 1, 64), (.numbered 2, 64)] ∧
      Desired.keys (AddressReport.entries snapshot) = [(.numbered 2, 64)] ∧
      ¬ ∀ key, key ∈ (c.updateAddresses snapshot s).2.host.kernel.addresses ↔
        key ∈ Desired.keys (AddressReport.entries snapshot) := by
  intro start ops c s snapshot
  have reach : Reaches (fun s s' => s'.host.kernel.addresses = s.host.kernel.addresses ∧
      s'.host.calls = s.host.calls) .default start c s := Reaches.run ops .new
  have kernel : (c.updateAddresses snapshot s).2.host.kernel.addresses =
      [(.numbered 1, 64), (.numbered 2, 64)] := by
    decide +kernel
  have wanted : Desired.keys (AddressReport.entries snapshot) = [(.numbered 2, 64)] := by
    decide +kernel
  refine ⟨reach, rfl, rfl, by decide +kernel, by decide +kernel, kernel, wanted, ?_⟩
  intro inLine
  have still := (inLine (.numbered 1, 64)).1 (by rw [kernel]; exact List.mem_cons_self)
  rw [wanted] at still
  exact absurd still (by decide +kernel)

/-! ## Groups -/

/-- **Which failures about groups the next snapshot makes good.** A controller is on a kernel that
    starts without groups and whose groups nobody else changes; any joins and leaves have failed in
    any way, and then a snapshot is applied whose joins fail only for groups that are joined. Then a
    group that it wants is in the kernel if and only if it was not left out. -/
theorem Reaches.groups_heal_iff
    (reach : Reaches (fun s s' => s'.host.kernel.groups = s.host.kernel.groups ∧
      s'.host.calls = s.host.calls) config start c s)
    (empty : start.host.kernel.groups = []) (silent : start.host.calls = [])
    {r : Resources} (resources : c.resources = some r) (snapshot : List AddressReport)
    {log : List Call}
    (issued : (c.updateAddresses snapshot s).2.host.calls = s.host.calls ++ log)
    (clean : ∀ g ifIndex outcome, .join g ifIndex outcome ∈ log →
      outcome = .ok () ∨ g ∈ s.host.kernel.groups) :
    ∀ g ∈ Desired.groups (AddressReport.entries snapshot),
      (g ∈ (c.updateAddresses snapshot s).2.host.kernel.groups ↔ ¬ LeftOut g s.host.calls) := by
  intro g wanted
  obtain ⟨t, step, -⟩ := updateAddresses_reconciles resources snapshot s
  obtain rfl : t.calls s.sequence = log := List.append_cancel_left (step.calls_eq.symm.trans issued)
  have after : Reaches _ config start (c.updateAddresses snapshot s).1
      (c.updateAddresses snapshot s).2 := reach.operate (.addresses snapshot)
  have before := reach.mem_groups_iff id empty silent g
  have held := after.mem_groups_iff id empty silent g
  rw [issued, groupSteps_append] at held
  have mirrored := (reach.disciplined And.right silent).ends_joined_iff g
  rw [held]
  by_cases old : g ∈ c.groups
  · -- Nobody asks about a group that is mirrored and wanted.
    have last := mirrored.2 old
    have unasked : groupSteps g (t.calls s.sequence) = [] := by
      rw [groupSteps, step.groupTurns_kept (iff_of_true old wanted), List.map_nil]
    rw [unasked, List.append_nil]
    constructor
    · rintro done ⟨-, failed⟩
      exact failed done
    · intro healed
      by_contra failed
      exact healed ⟨last, failed⟩
  · have last := mt mirrored.1 old
    obtain ⟨outcome, made, once⟩ := step.groupTurns_joined old wanted s.sequence
    have asked : groupSteps g (t.calls s.sequence) = [(.joined, outcome.isOk)] := by
      rw [groupSteps, once, List.map_singleton]
    refine iff_of_true ?_ fun out => last out.1
    rw [asked]
    cases outcome with
    | ok u => exact (endsDone_concat _).2 rfl
    | error e =>
        have there : g ∈ s.host.kernel.groups :=
          (clean g t.ifIndex _ made).resolve_left (by simp)
        exact (endsDone_append_of_failed (by simp [Except.isOk, Except.toBool])).2 (before.1 there)

/-- A join fails. After a snapshot without the group the next one that wants it makes it good. -/
theorem groups_heal_of_wanted_again :
    let start : Shared SessionHost :=
      ⟨0, ⟨⟨.idle 0, [], [some Errno.noDevice, none, some Errno.noDevice]⟩, []⟩⟩
    let ops : List Operation := [.start ⟨Config.defaultInterface⟩,
      .addresses [.numberedGroup 1, .numberedGroup 2], .addresses [.numberedGroup 2]]
    let c := ((new .default).run start ops).1
    let s := ((new .default).run start ops).2
    let r : Resources := ⟨⟨Config.defaultInterface⟩, MemoryKernel.defaultIndex⟩
    let snapshot : List AddressReport := [.numberedGroup 1, .numberedGroup 2]
    let log : List Call := [.join (.numberedGroup 1) r.ifIndex (.ok ())]
    Reaches (fun s s' => s'.host.kernel.groups = s.host.kernel.groups ∧
        s'.host.calls = s.host.calls) .default start c s ∧
      start.host.kernel.groups = [] ∧ start.host.calls = [] ∧ c.resources = some r ∧
      (c.updateAddresses snapshot s).2.host.calls = s.host.calls ++ log ∧
      (∀ g ifIndex outcome, .join g ifIndex outcome ∈ log →
        outcome = .ok () ∨ g ∈ s.host.kernel.groups) ∧
      s.host.kernel.groups = [.numberedGroup 2] ∧
      (c.updateAddresses snapshot s).2.host.kernel.groups =
        [.numberedGroup 2, .numberedGroup 1] ∧
      ∀ g ∈ Desired.groups (AddressReport.entries snapshot),
        (g ∈ (c.updateAddresses snapshot s).2.host.kernel.groups ↔
          ¬ LeftOut g s.host.calls) := by
  intro start ops c s r snapshot log
  have reach : Reaches (fun s s' => s'.host.kernel.groups = s.host.kernel.groups ∧
      s'.host.calls = s.host.calls) .default start c s := Reaches.run ops .new
  have held : c.resources = some r := by decide +kernel
  have issued : (c.updateAddresses snapshot s).2.host.calls = s.host.calls ++ log := by
    decide +kernel
  have clean : ∀ g ifIndex outcome, .join g ifIndex outcome ∈ log →
      outcome = .ok () ∨ g ∈ s.host.kernel.groups := by
    intro g ifIndex outcome made
    obtain ⟨-, -, ok⟩ := Call.join.inj (List.mem_singleton.1 made)
    exact .inl ok
  exact ⟨reach, rfl, rfl, held, issued, clean, by decide +kernel, by decide +kernel,
    reach.groups_heal_iff rfl rfl held snapshot issued clean⟩

/-- A join fails. The next snapshot wants the group still, and nobody asks for it again. -/
theorem group_left_out :
    let start : Shared SessionHost :=
      ⟨0, ⟨⟨.idle 0, [], [some Errno.noDevice]⟩, []⟩⟩
    let snapshot : List AddressReport := [.numberedGroup 1]
    let ops : List Operation := [.start ⟨Config.defaultInterface⟩, .addresses snapshot]
    let c := ((new .default).run start ops).1
    let s := ((new .default).run start ops).2
    Reaches (fun s s' => s'.host.kernel.groups = s.host.kernel.groups ∧
        s'.host.calls = s.host.calls) .default start c s ∧
      start.host.kernel.groups = [] ∧ start.host.calls = [] ∧
      c.resources = some ⟨⟨Config.defaultInterface⟩, MemoryKernel.defaultIndex⟩ ∧
      (c.updateAddresses snapshot s).2.host.calls = s.host.calls ∧
      (c.updateAddresses snapshot s).2.host.kernel.groups = [] ∧
      ¬ ∀ g ∈ Desired.groups (AddressReport.entries snapshot),
        g ∈ (c.updateAddresses snapshot s).2.host.kernel.groups := by
  intro start snapshot ops c s
  have reach : Reaches (fun s s' => s'.host.kernel.groups = s.host.kernel.groups ∧
      s'.host.calls = s.host.calls) .default start c s := Reaches.run ops .new
  have kernel : (c.updateAddresses snapshot s).2.host.kernel.groups = [] := by decide +kernel
  refine ⟨reach, rfl, rfl, by decide +kernel, by decide +kernel, kernel, ?_⟩
  intro joined
  have there := joined (.numberedGroup 1) (by decide +kernel)
  rw [kernel] at there
  exact List.not_mem_nil there

end Controller
end MeshLink
