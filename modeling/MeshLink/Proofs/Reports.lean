import MeshLink.Proofs.Keyed
set_option autoImplicit false

/-! # What a snapshot reports

A snapshot of addresses is a list of raw reports. What it asks for can be read off these reports one
by one, without the entries that are made of them: a report that is not malformed is about a group
if its first octet is all ones, and about an address of the interface otherwise.

`wantedAddresses_eq` and `wantedGroups_eq` say that the entries amount to the same. -/

namespace MeshLink

/-- The first occurrences in a list are its elements without the later duplicates. -/
theorem Diff.distinct_eq_eraseDups {α : Type} [DecidableEq α] (xs : List α) :
    distinct xs = xs.eraseDups := by
  induction xs using List.reverseRecOn with
  | nil => rfl
  | append_singleton xs a ih =>
      rw [distinct_concat, ih, List.eraseDups_append]
      by_cases again : a ∈ xs
      · rw [if_pos again]
        simp [List.removeAll, again]
      · rw [if_neg again]
        simp [List.removeAll, again, List.eraseDups_cons]

namespace AddressReport

/-- The address of the entry is not one, or its length is not that of a prefix. -/
def Malformed (r : AddressReport) : Prop :=
  r.address.length ≠ 16 ∨ 128 < r.length.toNat

instance : DecidablePred Malformed :=
  fun r => inferInstanceAs (Decidable (r.address.length ≠ 16 ∨ 128 < r.length.toNat))

/-- The report is about a group. -/
def IsGroup (r : AddressReport) : Prop :=
  r.address.head? = some 0xff

instance : DecidablePred IsGroup :=
  fun r => inferInstanceAs (Decidable (r.address.head? = some 0xff))

/-- What a report of a snapshot asks for at a time. The address is preferred if the report says so,
    but a mesh-local one only while no usable report is about an active off-mesh routable one; an
    address that is not preferred is deprecated from then on. -/
def linkAddress (snapshot : List AddressReport) (now : Int64) (r : AddressReport) : LinkAddress :=
  .of (.padded r.address) r.length
    (if r.preferred = true ∧
        ¬ (r.meshLocal = true ∧ ∃ f ∈ snapshot, ¬ f.Malformed ∧ f.activeOmr = true) then
      .permanent
    else .at now)
    .permanent

/-- The addresses that a snapshot asks for: for each address and length the last report about it, in
    the place of the first. -/
def wantedAddresses (snapshot : List AddressReport) (now : Int64) : List LinkAddress :=
  LinkAddress.lastOfEach
    ((snapshot.filter fun r => ¬ r.Malformed ∧ ¬ r.IsGroup).map (linkAddress snapshot now))

/-- The groups that a snapshot asks for, each where it is first reported. -/
def wantedGroups (snapshot : List AddressReport) : List Ipv6 :=
  ((snapshot.filter fun r => ¬ r.Malformed ∧ r.IsGroup).map fun r => .padded r.address).eraseDups

/-! ## Entries -/

/-- The entry of a report that is not malformed. -/
def entry (r : AddressReport) : AddressEntry :=
  ⟨.padded r.address, r.length, r.meshLocal, r.activeOmr, r.preferred⟩

/-- The malformed entries are the ones that are dropped. -/
theorem validate_eq_none_iff {r : AddressReport} :
    r.validate.toOption = none ↔ r.Malformed := by
  rw [validate, Malformed, ← Ipv6.ofOctets?_eq_none_iff]
  cases Ipv6.ofOctets? r.address with
  | none => exact iff_of_true rfl (.inl rfl)
  | some address =>
      by_cases long : Net.maxLength < r.length
      · simp only [if_pos long]
        exact iff_of_true rfl (.inr long)
      · simp only [if_neg long]
        exact iff_of_false nofun fun malformed => malformed.elim nofun long

theorem validate_eq_entry {r : AddressReport} (usable : ¬ r.Malformed) :
    r.validate.toOption = some r.entry := by
  obtain ⟨octets, short⟩ := not_or.1 usable
  -- Sixteen octets are an address as they are, so padding leaves them.
  have whole : Ipv6.ofOctets? r.address = some (.padded r.address) := by
    rw [← Ipv6.ofOctets?_octets (.padded r.address), Ipv6.octets_padded (by omega)]
    simp [not_not.1 octets]
  rw [validate, whole]
  simp only [if_neg (show ¬ Net.maxLength < r.length from short)]
  rfl

theorem entries_eq (snapshot : List AddressReport) :
    entries snapshot = (snapshot.filter fun r => ¬ r.Malformed).map entry := by
  induction snapshot with
  | nil => rfl
  | cons r snapshot ih =>
      rw [entries] at ih
      rw [entries, List.filterMap_cons, ih]
      by_cases malformed : r.Malformed
      · rw [validate_eq_none_iff.2 malformed, List.filter_cons_of_neg (by simp [malformed])]
      · rw [validate_eq_entry malformed, List.filter_cons_of_pos (by simp [malformed])]
        rfl

theorem isMulticast_entry {r : AddressReport} (usable : ¬ r.Malformed) :
    r.entry.isMulticast = true ↔ r.IsGroup := by
  obtain ⟨octets, -⟩ := not_or.1 usable
  rw [AddressEntry.isMulticast, entry, Ipv6.isMulticast, Ipv6.octet,
    Ipv6.octets_padded (by omega), beq_iff_eq, IsGroup]
  obtain ⟨first, rest, address⟩ :=
    List.exists_cons_of_length_pos (show 0 < r.address.length by omega)
  rw [address]
  simp

theorem filter_entries (snapshot : List AddressReport) (p : AddressEntry → Bool)
    (q : AddressReport → Prop) [DecidablePred q]
    (same : ∀ r : AddressReport, ¬ r.Malformed → (p r.entry = true ↔ q r)) :
    (entries snapshot).filter p = (snapshot.filter fun r => ¬ r.Malformed ∧ q r).map entry := by
  rw [entries_eq, List.filter_map, List.filter_filter]
  congr 1
  refine List.filter_congr fun r _ => ?_
  by_cases malformed : r.Malformed
  · simp [malformed]
  · simp [malformed, ← same r malformed]

theorem hasActiveOmr_entries (snapshot : List AddressReport) :
    Desired.hasActiveOmr (entries snapshot) = true ↔
      ∃ f ∈ snapshot, ¬ f.Malformed ∧ f.activeOmr = true := by
  simp [Desired.hasActiveOmr, entries_eq, entry]

theorem linkAddress_entry (snapshot : List AddressReport) (now : Int64) (r : AddressReport) :
    Desired.linkAddress (Desired.hasActiveOmr (entries snapshot)) now r.entry =
      linkAddress snapshot now r := by
  rw [Desired.linkAddress, linkAddress]
  congr 1
  refine if_congr ?_ rfl rfl
  rw [← hasActiveOmr_entries, Desired.isPreferred, entry]
  cases r.meshLocal <;> simp

theorem wantedAddresses_eq (snapshot : List AddressReport) (now : Int64) :
    wantedAddresses snapshot now =
      LinkAddress.lastOfEach (Desired.unicast (entries snapshot) now) := by
  have unicast := filter_entries snapshot (!·.isMulticast) (¬ ·.IsGroup) fun r usable => by
    rw [← isMulticast_entry usable]
    simp
  rw [wantedAddresses, Desired.unicast, unicast, List.map_map]
  congr 1
  exact List.map_congr_left fun r _ => (linkAddress_entry snapshot now r).symm

theorem wantedGroups_eq (snapshot : List AddressReport) :
    wantedGroups snapshot = Diff.distinct (Desired.groups (entries snapshot)) := by
  have multicast := filter_entries snapshot (·.isMulticast) IsGroup fun r => isMulticast_entry
  rw [wantedGroups, Desired.groups, multicast, List.map_map, Diff.distinct_eq_eraseDups]
  rfl

end AddressReport
end MeshLink
