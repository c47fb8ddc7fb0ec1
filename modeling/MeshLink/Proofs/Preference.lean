import MeshLink.Proofs.Consistency
import MeshLink.Proofs.Discipline
set_option autoImplicit false

/-! # Which addresses are preferred

A snapshot decides which of the mirrored addresses are preferred, whatever was mirrored before and
whatever fails on the way: an address that has to change is taken out of the mirror before the
kernel is asked, and comes back only as it is wanted. So each mirrored address is that of the last
entry about it (`Desired.lastEntry_of_mem`), and while an off-mesh routable address is active no
mesh-local one is preferred.

The kernel is told the same. Of all that a controller has ever asked about a mirrored address the
last request is the addition that brought it (`Career.Disciplined`), and the lifetimes in that
one agree with the mirror unless the clock has gone back. -/

namespace MeshLink

/-! ## The last entry about an address -/

namespace Desired

variable {entries : List AddressEntry} {now : Int64} {a : LinkAddress}

/-- The last entry about an address and a length. -/
def lastEntry (entries : List AddressEntry) (key : Ipv6 × UInt8) : Option AddressEntry :=
  entries.reverse.find? fun e => (e.address, e.length) = key

theorem of_lastEntry {key : Ipv6 × UInt8} {e : AddressEntry}
    (last : lastEntry entries key = some e) : e ∈ entries ∧ (e.address, e.length) = key := by
  unfold lastEntry at last
  have matched := List.find?_some last
  exact ⟨List.mem_reverse.1 (List.mem_of_find?_eq_some last), of_decide_eq_true matched⟩

/-- What is wanted under a key that is no group is the address of the last entry about it. -/
theorem lastAbout_unicast (entries : List AddressEntry) (now : Int64) {key : Ipv6 × UInt8}
    (unicast : key.1.isMulticast = false) :
    LinkAddress.lastAbout (Desired.unicast entries now) key =
      (lastEntry entries key).map (linkAddress (hasActiveOmr entries) now) := by
  unfold LinkAddress.lastAbout Desired.unicast lastEntry
  rw [← List.map_reverse, List.find?_map, ← List.filter_reverse, List.find?_filter]
  congr 2
  funext e
  refine decide_eq_decide.2 ?_
  show (!e.isMulticast) = true ∧ decide ((e.address, e.length) = key) = true ↔ _
  rw [decide_eq_true_iff]
  -- An entry about the key is no group either.
  refine and_iff_right_of_imp ?_
  rintro rfl
  simpa [AddressEntry.isMulticast] using unicast

/-- **What is wanted** under a key that is no group is the address of the last entry about it. -/
theorem mem_addresses_iff_lastEntry : a ∈ addresses entries now ↔
    a.key.1.isMulticast = false ∧
      (lastEntry entries a.key).map (linkAddress (hasActiveOmr entries) now) = some a := by
  constructor
  · intro wanted
    have unicast : a.key.1.isMulticast = false := by
      obtain ⟨e, -, unicast, rfl⟩ := exists_entry wanted
      exact unicast
    rw [addresses_eq, LinkAddress.mem_lastOfEach, lastAbout_unicast entries now unicast] at wanted
    exact ⟨unicast, wanted⟩
  · rintro ⟨unicast, last⟩
    rwa [addresses_eq, LinkAddress.mem_lastOfEach, lastAbout_unicast entries now unicast]

theorem lastEntry_of_mem (h : a ∈ addresses entries now) :
    ∃ e, lastEntry entries a.key = some e ∧ linkAddress (hasActiveOmr entries) now e = a :=
  Option.map_eq_some_iff.1 (mem_addresses_iff_lastEntry.1 h).2

/-- An entry is preferred if it says so, but a mesh-local one only while no off-mesh routable
    address is active. -/
theorem deprecation_linkAddress (entries : List AddressEntry) (now : Int64) (e : AddressEntry) :
    (linkAddress (hasActiveOmr entries) now e).deprecation =
      if e.preferred = true ∧ ¬ (e.meshLocal = true ∧ ∃ f ∈ entries, f.activeOmr = true) then
        .permanent
      else .at now := by
  simp only [linkAddress, LinkAddress.of, isPreferred, hasActiveOmr, Bool.and_eq_true,
    Bool.not_eq_true', ← Bool.not_eq_true, List.any_eq_true]

end Desired

namespace Controller

variable {σ : Type} [Host σ] {c : Controller}

theorem mem_desired_of_mem {r : Resources} (held : c.resources = some r)
    (snapshot : List AddressReport) (s : Shared σ) {a : LinkAddress}
    (mirrored : a ∈ (c.updateAddresses snapshot s).1.inventory.addresses) :
    a ∈ desired snapshot (Host.now s.host).1 := by
  obtain ⟨t, step, after⟩ := updateAddresses_reconciles held snapshot s
  rw [after] at mirrored
  rw [step.clock]
  exact ((step.mem_addresses a).1 mirrored).1

end Controller

/-! ## What the kernel was told last -/

namespace Career

variable {σ : Type} [Host σ] {k : Career}

/-- All calls of a controller, in order. -/
def calls (k : Career) : List Call :=
  k.deeds.flatMap fun d => d.exchanges.filterMap Exchange.call?

/-- A controller sees to it that its calls tell what it mirrors. -/
structure Disciplined (k : Career) : Prop where
  staged : k.controller.IsStaged
  unique : LinkAddress.KeysUnique k.controller.inventory.addresses
  told : k.controller.Disciplined k.calls

theorem disciplined_new (config : Config) : (new config).Disciplined :=
  ⟨rfl, List.nodup_nil, Controller.disciplined_new config⟩

theorem Disciplined.act (h : k.Disciplined) (op : Operation) (s : Shared σ) :
    (k.act op s).1.Disciplined := by
  -- The same operation on a host that writes down the calls behind those made before.
  let r : Shared (Recorded σ) := ⟨s.sequence, s.host, k.calls⟩
  let t : Shared (Transcribed σ) := ⟨s.sequence, s.host, []⟩
  obtain ⟨same, -⟩ := Transcribed.alike.apply_self k.controller op t s rfl
  obtain ⟨same', -, -, calls⟩ := (Recorded.alike k.calls).apply_self k.controller op r t
    ⟨rfl, rfl, (List.append_nil _).symm⟩
  have step := Controller.apply_transition h.staged op r
  have told := step.disciplined h.told h.unique
  have unique := step.keysUnique h.unique
  have staged := step.isStaged h.staged
  rw [same', same] at told unique staged
  refine ⟨staged, unique, ?_⟩
  have all : (k.act op s).1.calls = (k.controller.apply op r).2.host.calls := by
    rw [calls, Career.calls, Career.act, List.flatMap_append, List.flatMap_singleton]
    rfl
  rw [all]
  exact told

/-- The last addition that was asked for of a key. -/
def lastAddition? (k : Career) (key : Ipv6 × UInt8) : Option Asked :=
  ((askedAbout key k.calls).filter (·.message.type = Netlink.MessageType.newAddress)).getLast?

theorem exists_deed {key : Ipv6 × UInt8} {q : Asked} (h : q ∈ askedAbout key k.calls) :
    ∃ before d, before ++ [d] <+: k.deeds ∧ ∃ octets seq,
      .call (.send octets seq q.outcome) ∈ d.exchanges ∧
        Netlink.AddressMessage.decode? octets = some q.message := by
  obtain ⟨octets, seq, sent, read⟩ := mem_askedAbout h
  obtain ⟨d, hd, called⟩ := List.mem_flatMap.1 sent
  obtain ⟨e, he, same⟩ := List.mem_filterMap.1 called
  obtain ⟨before, later, split⟩ := List.append_of_mem hd
  refine ⟨before, d, ⟨later, by simp [split]⟩, octets, seq, ?_, read⟩
  cases e with
  | clock time => cases same
  | call c =>
      cases same
      exact he

/-- The last request about a mirrored address is the addition that brought it, with its flags. -/
theorem Disciplined.lastAddition?_eq (h : k.Disciplined) {a : LinkAddress}
    (mirrored : a ∈ k.controller.inventory.addresses) :
    ∃ q ∈ askedAbout a.key k.calls, k.lastAddition? a.key = some q ∧
      q.message.type = Netlink.MessageType.newAddress ∧
      q.message.extendedFlags = some a.flags := by
  obtain ⟨q, last, flags⟩ := h.told.flags a mirrored
  obtain ⟨q', last', granted⟩ := (h.told.mem_keys_iff a.key).1 (List.mem_map_of_mem mirrored)
  obtain rfl : q = q' := Option.some.inj (last.symm.trans last')
  have type := (Asked.of_granted granted).1
  obtain ⟨earlier, split⟩ := List.getLast?_eq_some_iff.1 last
  refine ⟨q, List.mem_of_getLast? last, ?_, type, flags⟩
  rw [lastAddition?, split, List.filter_append]
  simp [type]

end Career

/-- The flags of an address tell whether it is deprecated. -/
theorem LinkAddress.WellFormed.flags_eq {a : LinkAddress} (h : a.WellFormed) :
    a.flags = if a.isDeprecated then deprecatedFlag else permanentFlag := by
  rw [h.flags, h.expiration, isDeprecated]
  rcases h.deprecation with permanent | finite
  · rw [permanent]
    exact flagsFor_permanent
  · rw [if_pos finite]
    cases kind : a.deprecation with
    | «at» time => exact flagsFor_at time
    | _ => simp [kind, Lifetime.isFinite] at finite

/-- The lifetimes of an addition tell the same as the flags of the address in it. -/
theorem Netlink.AddressMessage.Consistent.preferred_eq_zero_iff {m : Netlink.AddressMessage}
    {ifIndex : UInt32} (h : m.Consistent ifIndex) {a : LinkAddress} (formed : a.WellFormed)
    (flags : m.extendedFlags = some a.flags) :
    ∃ preferred valid, m.lifetimes = some (preferred, valid) ∧
      (preferred = 0 ↔ a.isDeprecated = true) := by
  rw [formed.flags_eq] at flags
  rcases h.lifetimes with ⟨lifetimes, told, -⟩ | ⟨lifetimes, told, -⟩
  · have preferred : ¬ a.isDeprecated = true := by
      intro deprecated
      rw [if_pos deprecated] at flags
      exact absurd (flags.symm.trans told) (by decide)
    exact ⟨_, _, lifetimes, iff_of_false (by decide) preferred⟩
  · have deprecated : a.isDeprecated = true := by
      by_contra preferred
      rw [if_neg preferred] at flags
      exact absurd (flags.symm.trans told) (by decide)
    exact ⟨_, _, lifetimes, iff_of_true rfl deprecated⟩

namespace Crew

variable {σ : Type} [Host σ] {ks : List Career} {s : Shared σ} {k : Career}

theorem disciplined (crew : Crew ks s) (member : k ∈ ks) : k.Disciplined :=
  crew.invariant Career.disciplined_new (fun _ op s h => h.act op s) k member

/-- The last addition of a mirrored address says whether the address is deprecated, unless the clock
    has gone back. -/
theorem lastAddition?_eq (crew : Crew ks s) (member : k ∈ ks)
    (steady : ∀ d ∈ k.deeds, Steady d.exchanges) {a : LinkAddress}
    (mirrored : a ∈ k.controller.inventory.addresses) (formed : a.WellFormed) :
    ∃ q preferred valid, k.lastAddition? a.key = some q ∧
      q.message.lifetimes = some (preferred, valid) ∧
      (preferred = 0 ↔ a.isDeprecated = true) := by
  obtain ⟨q, asked, last, type, flags⟩ := (crew.disciplined member).lastAddition?_eq mirrored
  obtain ⟨before, d, deed, octets, seq, sent, read⟩ := Career.exists_deed asked
  obtain ⟨c, c', s, s', -, t, seen⟩ := crew.done member deed
  obtain ⟨m, ifIndex, read', -, consistent⟩ := (t.asks seen sent).reads
  obtain rfl : q.message = m := Option.some.inj (read.symm.trans read')
  have steady : Steady d.exchanges := steady d (deed.subset (by simp))
  obtain ⟨preferred, valid, lifetimes, same⟩ :=
    (consistent type steady).preferred_eq_zero_iff formed flags
  exact ⟨q, preferred, valid, last, lifetimes, same⟩

end Crew

/-- **The last snapshot decides what is preferred.** Whatever controllers have done on what they
    share and whatever their host has answered: after a snapshot, whatever comes of its requests,
    each address that a controller mirrors is that of the last usable entry about it. It never
    expires, and it is preferred exactly if that entry says so, unless the entry is mesh-local and
    an off-mesh routable address is active; otherwise it is deprecated as of the start of the
    snapshot. So while an off-mesh routable address is active no mesh-local address is preferred,
    not even one that was before and whose removal failed, or its addition afterwards. Unless the
    clock has gone back within an operation, the last addition that the controller asked for of each
    mirrored address tells the same: nothing remains of its preference exactly if it is
    deprecated. -/
theorem Crew.snapshot_decides_preference {σ : Type} [Host σ] {ks : List Career} {s : Shared σ}
    (crew : Crew ks s) {k : Career} (member : k ∈ ks) {r : Resources}
    (held : k.controller.resources = some r) (snapshot : List AddressReport) :
    let entries := AddressReport.entries snapshot
    let done := (k.act (.addresses snapshot) s).1
    (∀ a ∈ done.controller.inventory.addresses,
      ∃ e, Desired.lastEntry entries a.key = some e ∧ a.expiration = .permanent ∧
        a.deprecation =
          if e.preferred = true ∧ ¬ (e.meshLocal = true ∧ ∃ f ∈ entries, f.activeOmr = true) then
            .permanent
          else .at (Host.now s.host).1) ∧
    ((∃ f ∈ entries, f.activeOmr = true) →
      ∀ a ∈ done.controller.inventory.addresses, ∀ e,
        Desired.lastEntry entries a.key = some e → e.meshLocal = true → a.isDeprecated = true) ∧
    ((∀ d ∈ done.deeds, Steady d.exchanges) →
      ∀ a ∈ done.controller.inventory.addresses,
        ∃ q preferred valid, done.lastAddition? a.key = some q ∧
          q.message.lifetimes = some (preferred, valid) ∧
          (preferred = 0 ↔ a.isDeprecated = true)) := by
  intro entries done
  have wanted : ∀ a ∈ done.controller.inventory.addresses,
      a ∈ Controller.desired snapshot (Host.now s.host).1 :=
    fun a mirrored => Controller.mem_desired_of_mem held snapshot s mirrored
  refine ⟨?_, ?_, ?_⟩
  · intro a mirrored
    obtain ⟨e, last, same⟩ := Desired.lastEntry_of_mem (wanted a mirrored)
    refine ⟨e, last, ?_, ?_⟩
    · rw [← same]
      rfl
    · rw [← Desired.deprecation_linkAddress, same]
  · intro active a mirrored e last meshLocal
    obtain ⟨e', last', same⟩ := Desired.lastEntry_of_mem (wanted a mirrored)
    obtain rfl : e = e' := Option.some.inj (last.symm.trans last')
    rw [LinkAddress.isDeprecated, ← same, Desired.deprecation_linkAddress,
      if_neg fun preferred => preferred.2 ⟨meshLocal, active⟩]
    rfl
  · intro steady a mirrored
    obtain ⟨m, present⟩ := List.getElem?_of_mem member
    have crew := crew.act (.addresses snapshot) present
    have member : done ∈ ks.set m done := List.mem_set (List.getElem?_eq_some_iff.1 present).1 _
    exact crew.lastAddition?_eq member steady mirrored
      (Controller.wellFormed_of_mem_desired (wanted a mirrored))

/-- Two mesh-local addresses are preferred until an off-mesh routable one is active. The kernel does
    not let go of the first one and does not take back the second one. Of two entries about the
    first one the later counts, and one with missing octets is left out. -/
theorem Crew.snapshot_decides_preference_of_failed_switch :
    let start : Shared (Timed MemoryKernel) :=
      ⟨0, { MemoryKernel.idle 0 with failingSends := [2, 5] }, [10, 10, 20, 30, 30, 40, 50]⟩
    let meshLocal (n : UInt8) (preferred : Bool) : AddressReport :=
      ⟨(Ipv6.numbered n).octets, 64, true, false, preferred⟩
    let routable : AddressReport := ⟨(Ipv6.numbered 3).octets, 64, false, true, true⟩
    let snapshot := [meshLocal 1 false, meshLocal 2 true, routable, ⟨[], 64, false, false, true⟩,
      meshLocal 1 true]
    let started := (Career.new .default).act (.start ⟨Config.defaultInterface⟩) start
    let before := started.1.act (.addresses [meshLocal 1 true, meshLocal 2 true]) started.2
    let done := before.1.act (.addresses snapshot) before.2
    let first := LinkAddress.of (.numbered 1) 64 (.at 30) .permanent
    before.1.controller.inventory.addresses = [.numbered 1, .numbered 2] ∧
      done.1.controller.inventory.addresses = [first, .numbered 3] ∧
      (∀ d ∈ done.1.deeds, Steady d.exchanges) ∧
      (∃ e, Desired.lastEntry (AddressReport.entries snapshot) first.key = some e ∧
        e.meshLocal = true ∧ e.preferred = true) ∧
      first.isDeprecated = true ∧
      ∃ q preferred valid, done.1.lastAddition? first.key = some q ∧
        q.message.lifetimes = some (preferred, valid) ∧
        (preferred = 0 ↔ first.isDeprecated = true) := by
  intro start meshLocal routable snapshot started before done first
  have enlisted : Crew [.new .default] start := (Crew.empty start).enlist .default
  have crew : Crew [started.1] started.2 := enlisted.act (m := 0) (k := .new .default) _ rfl
  have crew : Crew [before.1] before.2 := crew.act (m := 0) (k := started.1) _ rfl
  have held : before.1.controller.resources = some ⟨⟨Config.defaultInterface⟩, 42⟩ := by
    decide +kernel
  have mirrored : done.1.controller.inventory.addresses = [first, .numbered 3] := by decide +kernel
  have steady : ∀ d ∈ done.1.deeds, Steady d.exchanges := by decide +kernel
  have decides := crew.snapshot_decides_preference List.mem_cons_self held snapshot
  have folded : before.1.act (.addresses snapshot) before.2 = done := rfl
  rw [folded] at decides
  obtain ⟨-, active, told⟩ := decides
  have present : first ∈ done.1.controller.inventory.addresses := by
    rw [mirrored]
    exact List.mem_cons_self
  have last : Desired.lastEntry (AddressReport.entries snapshot) first.key =
      some ⟨.numbered 1, 64, true, false, true⟩ := by
    decide +kernel
  have routed : ∃ f ∈ AddressReport.entries snapshot, f.activeOmr = true :=
    ⟨⟨.numbered 3, 64, false, true, true⟩, by decide +kernel, rfl⟩
  have deprecated : first.isDeprecated = true := active routed first present _ last rfl
  exact ⟨by decide +kernel, mirrored, steady, ⟨_, last, rfl, rfl⟩, deprecated,
    told steady first present⟩

end MeshLink
