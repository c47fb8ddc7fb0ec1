import MeshLink.Proofs.Keyed
set_option autoImplicit false

/-! # What is wanted, by time and by order

What a snapshot asks for depends on the clock and on the order of its entries in one way each.

The time of a snapshot is written into the addresses that are deprecated, and into no other
(`Desired.addresses_asOf`). So at two times a snapshot asks for the same, except that each
deprecated address is another one by value.

The order of the entries decides where an address stands, and which of several entries about it
counts. While entries about one address and length say the same, the second does not matter, and
every order of a snapshot asks for the same addresses (`Desired.mem_addresses_perm`). -/

namespace MeshLink

/-! ## The last of each key -/

namespace LinkAddress

theorem mem_of_lastAbout {as : List LinkAddress} {a : LinkAddress} {k : Ipv6 × UInt8}
    (h : lastAbout as k = some a) : a ∈ as :=
  List.mem_reverse.1 (List.mem_of_find?_eq_some h)

/-- An entry is kept if it is the last one about its key. -/
theorem mem_lastOfEach {as : List LinkAddress} {a : LinkAddress} :
    a ∈ lastOfEach as ↔ lastAbout as a.key = some a := by
  simp only [lastOfEach, List.mem_filterMap, Diff.mem_distinct]
  constructor
  · rintro ⟨k, -, last⟩
    rwa [key_of_lastAbout last]
  · intro last
    exact ⟨a.key, List.mem_map_of_mem (mem_of_lastAbout last), last⟩

theorem mem_of_mem_lastOfEach {as : List LinkAddress} {a : LinkAddress} (h : a ∈ lastOfEach as) :
    a ∈ as :=
  mem_of_lastAbout (mem_lastOfEach.1 h)

theorem mem_lastOfEach_of_agree {as : List LinkAddress}
    (agree : ∀ a ∈ as, ∀ b ∈ as, a.key = b.key → a = b) {a : LinkAddress} :
    a ∈ lastOfEach as ↔ a ∈ as := by
  refine ⟨mem_of_mem_lastOfEach, fun ha => mem_lastOfEach.2 ?_⟩
  obtain ⟨b, last⟩ := Option.isSome_iff_exists.1 (lastAbout_isSome (List.mem_map_of_mem ha))
  rw [last, agree b (mem_of_lastAbout last) a ha (key_of_lastAbout last)]

/-- A change that leaves the keys can be made before or after the last of each is taken. -/
theorem lastOfEach_map {f : LinkAddress → LinkAddress} (h : ∀ a, (f a).key = a.key)
    (as : List LinkAddress) : lastOfEach (as.map f) = (lastOfEach as).map f := by
  have keys : (as.map f).map key = as.map key := by
    rw [List.map_map]
    exact List.map_congr_left fun a _ => h a
  have last : lastAbout (as.map f) = fun k => (lastAbout as k).map f := by
    funext k
    simp only [lastAbout, ← List.map_reverse, List.find?_map, Function.comp_def, h]
  rw [lastOfEach, keys, last, ← List.map_filterMap]
  rfl

/-! ## The time in an entry -/

/-- The entry with another time of deprecation, if it is deprecated. -/
def asOf (now : Int64) (a : LinkAddress) : LinkAddress :=
  if a.isDeprecated then { a with deprecation := .at now } else a

@[simp] theorem key_asOf (now : Int64) (a : LinkAddress) : (a.asOf now).key = a.key := by
  unfold asOf
  split <;> rfl

@[simp] theorem isDeprecated_asOf (now : Int64) (a : LinkAddress) :
    (a.asOf now).isDeprecated = a.isDeprecated := by
  unfold asOf
  split
  · next h => rw [h]; rfl
  · rfl

theorem asOf_of_preferred {a : LinkAddress} (h : a.isDeprecated = false) (now : Int64) :
    a.asOf now = a := by
  simp [asOf, h]

theorem deprecation_asOf {a : LinkAddress} (h : a.isDeprecated = true) (now : Int64) :
    (a.asOf now).deprecation = .at now := by
  simp [asOf, h]

end LinkAddress

namespace Desired

variable {entries : List AddressEntry} {now later : Int64} {a : LinkAddress}

theorem asOf_linkAddress (activeOmr : Bool) (now later : Int64) (e : AddressEntry) :
    (linkAddress activeOmr now e).asOf later = linkAddress activeOmr later e := by
  unfold linkAddress
  cases isPreferred activeOmr e <;> rfl

theorem mem_unicast : a ∈ unicast entries now ↔
    ∃ e ∈ entries, e.isMulticast = false ∧ linkAddress (hasActiveOmr entries) now e = a := by
  simp [unicast, and_assoc]

theorem exists_entry (h : a ∈ addresses entries now) :
    ∃ e ∈ entries, e.isMulticast = false ∧ linkAddress (hasActiveOmr entries) now e = a := by
  rw [addresses_eq] at h
  exact mem_unicast.1 (LinkAddress.mem_of_mem_lastOfEach h)

/-! ## By time -/

/-- **A snapshot at another time** asks for the same, with the other time in what is deprecated. -/
theorem addresses_asOf (entries : List AddressEntry) (now later : Int64) :
    addresses entries later = (addresses entries now).map (LinkAddress.asOf later) := by
  rw [addresses_eq, addresses_eq, ← LinkAddress.lastOfEach_map (LinkAddress.key_asOf later),
    unicast, unicast, List.map_map]
  congr 1
  exact List.map_congr_left fun e _ => (asOf_linkAddress _ now later e).symm

theorem deprecation_eq (h : a ∈ addresses entries now) (deprecated : a.isDeprecated = true) :
    a.deprecation = .at now := by
  rw [addresses_asOf entries now now] at h
  obtain ⟨b, -, rfl⟩ := List.mem_map.1 h
  rw [LinkAddress.isDeprecated_asOf] at deprecated
  exact LinkAddress.deprecation_asOf deprecated now

/-- What is wanted at one time is wanted at another one as it is exactly if it is not deprecated. -/
theorem mem_addresses_later (h : a ∈ addresses entries now) :
    a ∈ addresses entries later ↔ later = now ∨ a.isDeprecated = false := by
  constructor
  · intro still
    by_contra! changed
    obtain ⟨moved, deprecated⟩ := changed
    have first := deprecation_eq h (by simpa using deprecated)
    have second := deprecation_eq still (by simpa using deprecated)
    exact moved (Lifetime.at.inj (second.symm.trans first))
  · rintro (rfl | preferred)
    · exact h
    · rw [addresses_asOf entries now later]
      exact List.mem_map.2 ⟨a, h, LinkAddress.asOf_of_preferred preferred later⟩

theorem forall_preferred_later (entries : List AddressEntry) (now later : Int64) :
    (∀ a ∈ addresses entries later, a.isDeprecated = false) ↔
      ∀ a ∈ addresses entries now, a.isDeprecated = false := by
  rw [addresses_asOf entries now later]
  simp

/-! ## By order -/

/-- Entries about one address and length are the same. -/
def Agree (entries : List AddressEntry) : Prop :=
  ∀ e ∈ entries, ∀ f ∈ entries, e.address = f.address → e.length = f.length → e = f

instance : Decidable (Agree entries) :=
  inferInstanceAs (Decidable (∀ e ∈ entries, ∀ f ∈ entries,
    e.address = f.address → e.length = f.length → e = f))

theorem mem_addresses_of_agree (agree : Agree entries) :
    a ∈ addresses entries now ↔ a ∈ unicast entries now := by
  rw [addresses_eq]
  refine LinkAddress.mem_lastOfEach_of_agree ?_
  intro a ha b hb same
  obtain ⟨e, he, -, rfl⟩ := mem_unicast.1 ha
  obtain ⟨f, hf, -, rfl⟩ := mem_unicast.1 hb
  obtain ⟨address, length⟩ := Prod.mk.inj same
  rw [agree e he f hf address length]

variable {others : List AddressEntry}

theorem hasActiveOmr_perm (perm : others.Perm entries) :
    hasActiveOmr others = hasActiveOmr entries :=
  perm.any_eq

/-- **A snapshot in another order** asks for the same addresses. -/
theorem mem_addresses_perm (agree : Agree entries) (perm : others.Perm entries) :
    a ∈ addresses others now ↔ a ∈ addresses entries now := by
  have agree' : Agree others := fun e he f hf =>
    agree e (perm.mem_iff.1 he) f (perm.mem_iff.1 hf)
  simp only [mem_addresses_of_agree agree, mem_addresses_of_agree agree', mem_unicast,
    hasActiveOmr_perm perm, perm.mem_iff]

theorem mem_groups_perm (perm : others.Perm entries) {g : Ipv6} :
    g ∈ groups others ↔ g ∈ groups entries := by
  simp only [groups, List.mem_map, List.mem_filter, perm.mem_iff]

end Desired

theorem AddressReport.entries_perm {snapshot again : List AddressReport}
    (perm : again.Perm snapshot) : (entries again).Perm (entries snapshot) :=
  perm.filterMap _

end MeshLink
