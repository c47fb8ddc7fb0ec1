import MeshLink.Proofs.Isolation
import MeshLink.Proofs.Preference
set_option autoImplicit false

/-! # Overridden entries

Of several entries about one address and length the last one counts. An earlier one is overridden:
it asks for nothing of its own, and a snapshot asks for the same addresses and groups without it,
with one exception. Whether an off-mesh routable (OMR) address is active is read off all usable
entries, the overridden ones included. So an overridden entry still matters if it is the only one
that calls its address an active OMR one, and only to mesh-local addresses that would be preferred
without it (`Desired.Sways`). -/

namespace MeshLink

namespace Desired

variable {before after : List AddressEntry} {e : AddressEntry}

/-- The entry is overridden by a later one about the same address and length. -/
def Overridden (e : AddressEntry) (after : List AddressEntry) : Prop :=
  ∃ f ∈ after, f.address = e.address ∧ f.length = e.length

instance (e : AddressEntry) (after : List AddressEntry) : Decidable (Overridden e after) :=
  inferInstanceAs (Decidable (∃ f ∈ after, f.address = e.address ∧ f.length = e.length))

theorem lastEntry_overridden (overridden : Overridden e after) (key : Ipv6 × UInt8) :
    lastEntry (before ++ e :: after) key = lastEntry (before ++ after) key := by
  rw [lastEntry, lastEntry, List.reverse_append, List.reverse_append, List.reverse_cons,
    List.find?_append, List.find?_append, List.find?_append]
  by_cases same : (e.address, e.length) = key
  · obtain ⟨f, there, address, length⟩ := overridden
    have found : (after.reverse.find? fun g => (g.address, g.length) = key).isSome := by
      rw [List.find?_isSome]
      exact ⟨f, List.mem_reverse.2 there, decide_eq_true (by rw [address, length, same])⟩
    obtain ⟨g, found⟩ := Option.isSome_iff_exists.1 found
    rw [found]
    rfl
  · have other : ([e].find? fun g => (g.address, g.length) = key) = none := by
      simpa using same
    rw [other, Option.or_none]

theorem hasActiveOmr_insert (before after : List AddressEntry) (e : AddressEntry) :
    hasActiveOmr (before ++ e :: after) = (e.activeOmr || hasActiveOmr (before ++ after)) := by
  simp only [hasActiveOmr, List.any_append, List.any_cons, Bool.or_left_comm]

theorem mem_groups_overridden (overridden : Overridden e after) {g : Ipv6} :
    g ∈ groups (before ++ e :: after) ↔ g ∈ groups (before ++ after) := by
  have there : e.isMulticast = true → e.address = g →
      ∃ f ∈ before ++ after, f.isMulticast = true ∧ f.address = g := by
    rintro multicast rfl
    obtain ⟨f, there, address, -⟩ := overridden
    refine ⟨f, List.mem_append_right _ there, ?_, address⟩
    rwa [AddressEntry.isMulticast, address]
  simp only [groups, List.mem_map, List.mem_filter, List.mem_append, List.mem_cons, and_assoc]
  constructor
  · rintro ⟨f, here | rfl | later, multicast, address⟩
    · exact ⟨f, .inl here, multicast, address⟩
    · simpa using there multicast address
    · exact ⟨f, .inr later, multicast, address⟩
  · rintro ⟨f, here | later, multicast, address⟩
    · exact ⟨f, .inl here, multicast, address⟩
    · exact ⟨f, .inr (.inr later), multicast, address⟩

/-- An entry that sways the others: it is the only one about an active OMR address, and beside it a
    mesh-local address is wanted that is preferred without it. -/
def Sways (e : AddressEntry) (others : List AddressEntry) : Prop :=
  e.activeOmr = true ∧ hasActiveOmr others = false ∧
    ∃ f ∈ others, f.isMulticast = false ∧ lastEntry others (f.address, f.length) = some f ∧
      f.meshLocal = true ∧ f.preferred = true

instance (e : AddressEntry) (others : List AddressEntry) : Decidable (Sways e others) :=
  inferInstanceAs (Decidable (e.activeOmr = true ∧ hasActiveOmr others = false ∧
    ∃ f ∈ others, f.isMulticast = false ∧ lastEntry others (f.address, f.length) = some f ∧
      f.meshLocal = true ∧ f.preferred = true))

theorem linkAddress_congr (now : Int64) {first second : Bool} {f : AddressEntry}
    (same : f.meshLocal = true → f.preferred = true → first = second) :
    linkAddress first now f = linkAddress second now f := by
  unfold linkAddress isPreferred
  cases meshLocal : f.meshLocal with
  | false => rfl
  | true =>
    cases preferred : f.preferred with
    | false => rfl
    | true => rw [same meshLocal preferred]

/-- Beside a mesh-local entry that counts, an entry that does not sway the others leaves the
    flag. -/
theorem hasActiveOmr_insert_of_unswayed {f : AddressEntry}
    (unswayed : ¬ Sways e (before ++ after)) (unicast : f.isMulticast = false)
    (last : lastEntry (before ++ after) (f.address, f.length) = some f)
    (meshLocal : f.meshLocal = true) (preferred : f.preferred = true) :
    hasActiveOmr (before ++ e :: after) = hasActiveOmr (before ++ after) := by
  rw [hasActiveOmr_insert]
  cases active : e.activeOmr with
  | false => rfl
  | true =>
      cases inactive : hasActiveOmr (before ++ after) with
      | true => rfl
      | false => exact absurd ⟨active, inactive, f, (of_lastEntry last).1, unicast, last, meshLocal,
          preferred⟩ unswayed

/-- **What is wanted without an overridden entry** is the same, unless the entry sways the
    others. -/
theorem mem_addresses_overridden (before : List AddressEntry) (overridden : Overridden e after)
    (now : Int64) :
    (∀ a, a ∈ addresses (before ++ e :: after) now ↔ a ∈ addresses (before ++ after) now) ↔
      ¬ Sways e (before ++ after) := by
  constructor
  · rintro same ⟨active, inactive, f, -, unicast, last, meshLocal, preferred⟩
    have wanted : linkAddress false now f ∈ addresses (before ++ after) now := by
      refine mem_addresses_iff_lastEntry.2 ⟨unicast, ?_⟩
      show (lastEntry _ (f.address, f.length)).map _ = _
      rw [last, inactive]
      rfl
    -- With the entry the same key is wanted, but deprecated.
    have found := (mem_addresses_iff_lastEntry.1 ((same _).2 wanted)).2
    rw [lastEntry_overridden overridden, hasActiveOmr_insert, active] at found
    change (lastEntry _ (f.address, f.length)).map _ = _ at found
    rw [last] at found
    have lifetimes := congrArg LinkAddress.deprecation (Option.some.inj found)
    simp [linkAddress, isPreferred, LinkAddress.of, meshLocal, preferred] at lifetimes
  · intro unswayed a
    rw [mem_addresses_iff_lastEntry, mem_addresses_iff_lastEntry,
      lastEntry_overridden overridden]
    refine and_congr_right fun unicast => ?_
    cases last : lastEntry (before ++ after) a.key with
    | none => rfl
    | some f =>
        have about := (of_lastEntry last).2
        rw [← about] at unicast last
        rw [Option.map_some, Option.map_some,
          linkAddress_congr now (hasActiveOmr_insert_of_unswayed unswayed unicast last)]

end Desired

/-! ## What is asked -/

/-- The requests among exchanges, by what they ask for: without their numbers and outcomes. -/
def asked (es : List Exchange) : List Call :=
  (requestsIn (es.filterMap Exchange.call?)).map Call.gist

namespace Request

theorem map_gist_calls (ifIndex seq : UInt32) (qs : List Request) :
    (calls ifIndex seq qs).map Call.gist = qs.map fun q => (q.call ifIndex 0).gist := by
  induction qs generalizing seq with
  | nil => rfl
  | cons q qs ih =>
      rw [calls, List.map_cons, ih]
      cases q <;> rfl

theorem requestsIn_calls (ifIndex seq : UInt32) (qs : List Request) :
    requestsIn (calls ifIndex seq qs) = calls ifIndex seq qs := by
  induction qs generalizing seq with
  | nil => rfl
  | cons q qs ih => exact congrArg (_ :: ·) (ih (seq + 1))

/-- What is exchanged for one of the requests is part of the dialogue. -/
theorem exchanges_mem_dialogue (ifIndex seq : UInt32) {qs : List Request} {q : Request}
    (h : q ∈ qs) : ∃ n, ∀ e ∈ q.exchanges ifIndex n, e ∈ dialogue ifIndex seq qs := by
  induction qs generalizing seq with
  | nil => exact absurd h List.not_mem_nil
  | cons p qs ih =>
      rcases List.mem_cons.1 h with rfl | later
      · exact ⟨seq, fun e he => List.mem_append_left _ he⟩
      · obtain ⟨n, all⟩ := ih (seq + 1) later
        exact ⟨n, fun e he => List.mem_append_right _ (all e he)⟩

end Request

namespace Controller

variable {σ : Type} [Host σ] {c : Controller} {snapshot : List AddressReport}

/-- What is wanted is asked for with the same lifetimes at any later time. -/
theorem addressRequest_of_mem_desired {first time : Int64} {a : LinkAddress}
    (wanted : a ∈ desired snapshot first) (steady : first ≤ time) (ifIndex : UInt32) :
    Netlink.AddressRequest.of a ifIndex time = .of a ifIndex first := by
  have formed := wellFormed_of_mem_desired wanted
  have valid : a.expiration.remaining time = a.expiration.remaining first := by
    rw [formed.expiration, Lifetime.remaining_permanent, Lifetime.remaining_permanent]
  have preferred : a.deprecation.remaining time = a.deprecation.remaining first := by
    rcases formed.deprecation with preferred | deprecated
    · rw [preferred, Lifetime.remaining_permanent, Lifetime.remaining_permanent]
    · have steady := Int64.le_iff_toInt_le.1 steady
      rw [Desired.deprecation_eq wanted deprecated, Lifetime.remaining_eq_zero_iff.2 (by omega),
        Lifetime.remaining_eq_zero_iff.2 (by omega)]
  rw [Netlink.AddressRequest.of, Netlink.AddressRequest.of, valid, preferred]

/-- What a removal asks for. -/
def removalGist (ifIndex : UInt32) (a : LinkAddress) : Call :=
  ((Request.removal a (.ok ())).call ifIndex 0).gist

/-- What an addition asks for that is made when the clock shows a time. -/
def additionGist (ifIndex : UInt32) (time : Int64) (a : LinkAddress) : Call :=
  ((Request.addition a time (.ok ())).call ifIndex 0).gist

/-- What is added is wanted, and the clock is read for it. -/
theorem Reconciles.addition_of_mem {s s' : Shared σ} {t : Reconciliation}
    (h : c.Reconciles snapshot s t s') {q : Request} (hq : q ∈ t.additions) (seq : UInt32) :
    ∃ a time o, q = .addition a time o ∧ a ∈ desired snapshot t.now ∧
      .clock time ∈ t.dialogue seq := by
  obtain ⟨a, time, o, rfl⟩ := Request.eq_addition (h.additions q hq)
  have wanted : a ∈ Diff.without (desired snapshot t.now) c.inventory.addresses :=
    h.added ▸ List.mem_map_of_mem hq
  obtain ⟨n, all⟩ := Request.exchanges_mem_dialogue t.ifIndex seq
    (show _ ∈ t.requests from List.mem_append_right _ hq)
  refine ⟨a, time, o, rfl, (Diff.mem_without.1 wanted).1, ?_⟩
  simp [Reconciliation.dialogue, all (.clock time) List.mem_cons_self]

/-- While the clock does not go back, a snapshot asks for the differences and for nothing that
    depends on when it gets to it. -/
theorem Reconciles.asked_eq {s s' : Shared σ} {t : Reconciliation}
    (h : c.Reconciles snapshot s t s') {seq : UInt32} (steady : Steady (t.dialogue seq)) :
    asked (t.dialogue seq) =
      (Diff.without c.inventory.addresses (desired snapshot t.now)).map
          (removalGist t.ifIndex) ++
        (Diff.without (desired snapshot t.now) c.inventory.addresses).map
          (additionGist t.ifIndex t.now) := by
  have removals : t.removals.map (fun q => (q.call t.ifIndex 0).gist) =
      (t.removals.map Request.address).map (removalGist t.ifIndex) := by
    rw [List.map_map]
    refine List.map_congr_left fun q hq => ?_
    obtain ⟨a, o, rfl⟩ := Request.eq_removal (h.removals q hq)
    rfl
  have additions : t.additions.map (fun q => (q.call t.ifIndex 0).gist) =
      (t.additions.map Request.address).map (additionGist t.ifIndex t.now) := by
    rw [List.map_map]
    refine List.map_congr_left fun q hq => ?_
    obtain ⟨a, time, o, rfl, wanted, read⟩ := h.addition_of_mem hq seq
    have later : t.now ≤ time := steady t.now rfl time (mem_readings read)
    have same := addressRequest_of_mem_desired wanted later t.ifIndex
    show Call.gist (.send (Netlink.newAddress 0 (.of a t.ifIndex time)) 0 o) = _
    rw [same]
    rfl
  rw [asked, t.filterMap_dialogue, Reconciliation.calls, requestsIn_append,
    t.requestsIn_groupCalls, List.append_nil, Request.requestsIn_calls, Request.map_gist_calls,
    Reconciliation.requests, List.map_append, removals, additions, h.removed, h.added]

/-! ## With and without an entry -/

/-- Every address that the snapshot wants is accepted, as far as it is asked for. -/
def Accepts (c : Controller) (snapshot : List AddressReport) (s : Shared σ) : Prop :=
  ∀ a ∈ desired snapshot (Host.now s.host).1,
    isRefused ((c.transcript (.addresses snapshot) s).filterMap Exchange.call?) a = false

instance (c : Controller) (snapshot : List AddressReport) (s : Shared σ) :
    Decidable (c.Accepts snapshot s) :=
  inferInstanceAs (Decidable (∀ a ∈ desired snapshot (Host.now s.host).1,
    isRefused ((c.transcript (.addresses snapshot) s).filterMap Exchange.call?) a = false))

/-- Two snapshots come to the same: the same addresses and groups are mirrored, and as long as the
    clock does not go back, the same is asked for, in some order. -/
structure SameOutcome (c : Controller) (snapshot again : List AddressReport) (s : Shared σ) :
    Prop where
  addresses : ∀ a, a ∈ (c.updateAddresses snapshot s).1.inventory.addresses ↔
    a ∈ (c.updateAddresses again s).1.inventory.addresses
  groups : ∀ g, g ∈ (c.updateAddresses snapshot s).1.groups ↔
    g ∈ (c.updateAddresses again s).1.groups
  requests : Steady (c.transcript (.addresses snapshot) s) →
    Steady (c.transcript (.addresses again) s) →
    (asked (c.transcript (.addresses snapshot) s)).Perm
      (asked (c.transcript (.addresses again) s))

/-- With resources a snapshot is reconciled, and the transcript is that of the reconciliation. -/
theorem exists_reconciliation {r : Resources} (held : c.resources = some r)
    (snapshot : List AddressReport) (s : Shared σ) :
    ∃ (t : Reconciliation) (u u' : Shared (Transcribed σ)), c.Reconciles snapshot u t u' ∧
      u.sequence = s.sequence ∧ t.now = (Host.now s.host).1 ∧
      (c.updateAddresses snapshot s).1 = c.reconciled snapshot t ∧
      c.transcript (.addresses snapshot) s = t.dialogue s.sequence := by
  let u : Shared (Transcribed σ) := ⟨s.sequence, s.host, []⟩
  obtain ⟨t, step, after⟩ := updateAddresses_reconciles held snapshot u
  obtain ⟨same, -⟩ := Transcribed.alike.apply_self c (.addresses snapshot) u s rfl
  refine ⟨t, u, _, step, rfl, step.clock.symm, ?_, ?_⟩
  · rw [← after]
    exact (congrArg Prod.snd same).symm
  · exact step.dialogue.exchanges_eq

theorem mem_addresses_of_accepts {r : Resources} (held : c.resources = some r) {s : Shared σ}
    (accepts : c.Accepts snapshot s) (a : LinkAddress) :
    a ∈ (c.updateAddresses snapshot s).1.inventory.addresses ↔
      a ∈ desired snapshot (Host.now s.host).1 := by
  obtain ⟨t, u, u', step, sequence, clock, after, transcript⟩ :=
    exists_reconciliation held snapshot s
  rw [Accepts, transcript, t.filterMap_dialogue, ← sequence, ← clock] at accepts
  rw [after, ← clock]
  exact step.mem_addresses_of_accepted accepts a

theorem mem_groups_updateAddresses {r : Resources} (held : c.resources = some r)
    (snapshot : List AddressReport) (s : Shared σ) (g : Ipv6) :
    g ∈ (c.updateAddresses snapshot s).1.groups ↔ g ∈ desiredGroups snapshot := by
  obtain ⟨t, u, u', -, -, -, after, -⟩ := exists_reconciliation held snapshot s
  rw [after]
  exact Diff.mem_distinct

theorem transcript_of_none (none : c.resources = none) (snapshot : List AddressReport)
    (s : Shared σ) : c.transcript (.addresses snapshot) s = [] := by
  let u : Shared (Transcribed σ) := ⟨s.sequence, s.host, []⟩
  show (c.updateAddresses snapshot u).2.host.exchanges = []
  rw [updateAddresses_of_none none]

/-- Where two snapshots want the same, the same is asked for, in some order. -/
theorem Reconciles.asked_perm {again : List AddressReport} {s s' s₁ s₁' : Shared σ}
    {t t₁ : Reconciliation} (h : c.Reconciles snapshot s t s') (h₁ : c.Reconciles again s₁ t₁ s₁')
    (clock : t₁.now = t.now)
    (same : ∀ a, a ∈ desired snapshot t.now ↔ a ∈ desired again t.now) {seq : UInt32}
    (steady : Steady (t.dialogue seq)) (steady₁ : Steady (t₁.dialogue seq)) :
    (asked (t.dialogue seq)).Perm (asked (t₁.dialogue seq)) := by
  have index : t₁.ifIndex = t.ifIndex := Option.some.inj (h₁.index.symm.trans h.index)
  have removed : Diff.without c.inventory.addresses (desired snapshot t.now) =
      Diff.without c.inventory.addresses (desired again t.now) :=
    List.filter_congr fun a _ => by simp only [same a]
  have added : (Diff.without (desired snapshot t.now) c.inventory.addresses).Perm
      (Diff.without (desired again t.now) c.inventory.addresses) := by
    rw [List.perm_ext_iff_of_nodup (Diff.nodup_without ..) (Diff.nodup_without ..)]
    intro a
    rw [Diff.mem_without, Diff.mem_without, same a]
  rw [h.asked_eq steady, h₁.asked_eq steady₁, index, clock, removed]
  exact (added.map _).append_left _

theorem sameOutcome_of_none (none : c.resources = none) (snapshot again : List AddressReport)
    (s : Shared σ) : c.SameOutcome snapshot again s where
  addresses := by simp only [updateAddresses_of_none none, implies_true]
  groups := by simp only [updateAddresses_of_none none, implies_true]
  requests := by simp only [transcript_of_none none, List.Perm.refl, implies_true]

/-- Where two snapshots want the same, they come to the same. -/
theorem sameOutcome_of_same_desired {r : Resources} (held : c.resources = some r)
    {again : List AddressReport} {s : Shared σ} (accepts : c.Accepts snapshot s)
    (accepts' : c.Accepts again s)
    (addresses : ∀ a, a ∈ desired snapshot (Host.now s.host).1 ↔
      a ∈ desired again (Host.now s.host).1)
    (groups : ∀ g, g ∈ desiredGroups snapshot ↔ g ∈ desiredGroups again) :
    c.SameOutcome snapshot again s where
  addresses a := by
    rw [mem_addresses_of_accepts held accepts, mem_addresses_of_accepts held accepts', addresses]
  groups g := by
    rw [mem_groups_updateAddresses held, mem_groups_updateAddresses held, groups]
  requests := by
    obtain ⟨t, u, u', step, -, clock, -, transcript⟩ := exists_reconciliation held snapshot s
    obtain ⟨t₁, u₁, u₁', step₁, -, clock₁, -, transcript₁⟩ := exists_reconciliation held again s
    rw [transcript, transcript₁]
    rw [← clock] at addresses
    exact step.asked_perm step₁ (clock₁.trans clock.symm) addresses

/-- **An overridden entry** counts for nothing, unless it is the only one that reports an active OMR
    address and beside it a mesh-local address is wanted that would be preferred. Whatever is
    mirrored and whatever the host answers, as long as no wanted address is refused: exactly then
    the snapshot without the entry comes to the same. -/
theorem sameOutcome_overridden_iff (c : Controller) {before after : List AddressReport}
    {r : AddressReport} {e : AddressEntry} (valid : r.validate = .ok e)
    (overridden : Desired.Overridden e (AddressReport.entries after)) {s : Shared σ}
    (accepts : c.Accepts (before ++ r :: after) s) (accepts' : c.Accepts (before ++ after) s) :
    c.SameOutcome (before ++ r :: after) (before ++ after) s ↔
      ¬ (c.resources.isSome ∧ Desired.Sways e (AddressReport.entries (before ++ after))) := by
  have inserted : AddressReport.entries (before ++ r :: after) =
      AddressReport.entries before ++ e :: AddressReport.entries after := by
    rw [AddressReport.entries, List.filterMap_append, List.filterMap_cons, valid]
    rfl
  have others : AddressReport.entries (before ++ after) =
      AddressReport.entries before ++ AddressReport.entries after :=
    List.filterMap_append
  have wanted := Desired.mem_addresses_overridden (AddressReport.entries before) overridden
    (Host.now s.host).1
  have groups : ∀ g, g ∈ desiredGroups (before ++ r :: after) ↔
      g ∈ desiredGroups (before ++ after) := by
    intro g
    rw [desiredGroups, desiredGroups, inserted, others, Desired.mem_groups_overridden overridden]
  rw [← inserted, ← others] at wanted
  constructor
  · rintro same ⟨holds, sways⟩
    obtain ⟨held, holds⟩ := Option.isSome_iff_exists.1 holds
    -- Nothing wanted is refused, so what is mirrored tells what is wanted.
    refine wanted.1 (fun a => ?_) sways
    have mirrored := same.addresses a
    rwa [mem_addresses_of_accepts holds accepts, mem_addresses_of_accepts holds accepts']
      at mirrored
  · intro unswayed
    cases holds : c.resources with
    | none => exact sameOutcome_of_none holds _ _ s
    | some held =>
        refine sameOutcome_of_same_desired holds accepts accepts' (wanted.2 fun sways => ?_) groups
        exact unswayed ⟨by rw [holds]; rfl, sways⟩

/-- An address is reported as an active OMR one and then not, behind another one that is. Without
    the first report the same is mirrored, and the same is asked for in another order. -/
theorem sameOutcome_overridden_of_other_omr :
    let start : Shared MemoryKernel := ⟨0, .idle 0⟩
    let ops : List Operation := [.start ⟨Config.defaultInterface⟩]
    let c := ((new .default).run start ops).1
    let s := ((new .default).run start ops).2
    let r : AddressReport := { AddressReport.numbered 1 true with activeOmr := true }
    let e : AddressEntry := ⟨.numbered 1, 64, false, true, true⟩
    let after : List AddressReport := [{ AddressReport.numbered 2 true with activeOmr := true },
      .numbered 1 true, { AddressReport.numbered 3 true with meshLocal := true }]
    Reaches (fun s s' => s' = s) .default start c s ∧ r.validate = .ok e ∧
      Desired.Overridden e (AddressReport.entries after) ∧
      c.Accepts ([] ++ r :: after) s ∧ c.Accepts ([] ++ after) s ∧
      c.SameOutcome ([] ++ r :: after) ([] ++ after) s ∧
      asked (c.transcript (.addresses ([] ++ r :: after)) s) ≠
        asked (c.transcript (.addresses ([] ++ after)) s) := by
  intro start ops c s r e after
  have valid : r.validate = .ok e := by decide
  have overridden : Desired.Overridden e (AddressReport.entries after) := by decide
  have accepts : c.Accepts ([] ++ r :: after) s := by decide +kernel
  have accepts' : c.Accepts ([] ++ after) s := by decide +kernel
  refine ⟨Reaches.run ops .new, valid, overridden, accepts, accepts', ?_, by decide +kernel⟩
  refine (sameOutcome_overridden_iff c valid overridden accepts accepts').2 ?_
  decide +kernel

/-- An address is reported as an active OMR one and then not, and no other one is. The mesh-local
    address next to it is deprecated all the same, while without the first report it is
    preferred. -/
theorem overridden_entry_deprecates :
    let start : Shared MemoryKernel := ⟨0, .idle 0⟩
    let ops : List Operation := [.start ⟨Config.defaultInterface⟩]
    let c := ((new .default).run start ops).1
    let s := ((new .default).run start ops).2
    let r : AddressReport := { AddressReport.numbered 1 true with activeOmr := true }
    let e : AddressEntry := ⟨.numbered 1, 64, false, true, true⟩
    let after : List AddressReport :=
      [.numbered 1 true, { AddressReport.numbered 3 true with meshLocal := true }]
    Reaches (fun s s' => s' = s) .default start c s ∧ r.validate = .ok e ∧
      Desired.Overridden e (AddressReport.entries after) ∧
      c.Accepts (r :: after) s ∧ c.Accepts after s ∧
      (c.updateAddresses (r :: after) s).1.inventory.addresses =
        [.numbered 1, .of (.numbered 3) 64 (.at 0) .permanent] ∧
      (c.updateAddresses after s).1.inventory.addresses = [.numbered 1, .numbered 3] ∧
      ¬ c.SameOutcome (r :: after) after s := by
  intro start ops c s r e after
  have overriding : (c.updateAddresses (r :: after) s).1.inventory.addresses =
      [.numbered 1, .of (.numbered 3) 64 (.at 0) .permanent] := by decide +kernel
  have alone : (c.updateAddresses after s).1.inventory.addresses =
      [.numbered 1, .numbered 3] := by decide +kernel
  refine ⟨Reaches.run ops .new, by decide, by decide, by decide +kernel, by decide +kernel,
    overriding, alone, fun same => ?_⟩
  have mirrored := same.addresses (.numbered 3)
  rw [overriding, alone] at mirrored
  exact absurd (mirrored.2 (by decide)) (by decide)

end Controller
end MeshLink
