import MeshLink.Proofs.Format
set_option autoImplicit false

/-! # Requests read back

The reader of address messages goes by lengths alone and knows nothing of how requests are built.
A request nevertheless says to it what it was built from: the walk over attributes finds those that
were written, in order and without their padding (`Attribute.scan_flatMap_bytes`), and the fixed
part stands where the reader looks for it (`AddressMessage.decode?_message`). -/

namespace MeshLink.Netlink

namespace Attribute

theorem scan_flatMap_bytes {as : List Attribute} (fits : ∀ a ∈ as, a.Fits) :
    scan (as.flatMap bytes) = as :=
  scan_of_allWritten (allWritten_flatMap_bytes as) fits

theorem length_bytes (a : Attribute) :
    a.bytes.length = align (headerLength + a.payload.length) := by
  have := le_align (headerLength + a.payload.length)
  simp only [bytes, List.length_append, length_bytes16, List.length_replicate]
  simp only [headerLength] at this ⊢
  omega

theorem length_bytes_addressAttribute (a : Ipv6) : (addressAttribute a).bytes.length = 20 := by
  rw [length_bytes, addressAttribute, a.length_octets]
  rfl

theorem length_bytes_lifetimeAttribute (preferred valid : UInt32) :
    (lifetimeAttribute preferred valid).bytes.length = 20 := by
  rw [length_bytes]
  show align (headerLength + 16) = 20
  rfl

theorem length_bytes_flagsAttribute (flags : UInt32) : (flagsAttribute flags).bytes.length = 8 := by
  rw [length_bytes]
  show align (headerLength + 4) = 8
  rfl

theorem fits_addressAttribute (a : Ipv6) : (addressAttribute a).Fits := by
  rw [Fits, addressAttribute, a.length_octets]
  decide

theorem fits_lifetimeAttribute (preferred valid : UInt32) :
    (lifetimeAttribute preferred valid).Fits := by
  show headerLength + 16 < 0x10000
  decide

theorem fits_flagsAttribute (flags : UInt32) : (flagsAttribute flags).Fits := by
  show headerLength + 4 < 0x10000
  decide

theorem lifetimes?_lifetimeAttribute (preferred valid : UInt32) :
    lifetimes? (lifetimeAttribute preferred valid) = some (preferred, valid) := by
  have first : word32? (lifetimeAttribute preferred valid).payload = some preferred := by
    rw [lifetimeAttribute, List.append_assoc, List.append_assoc, word32?_bytes32_append]
  have second : word32? ((lifetimeAttribute preferred valid).payload.drop 4) = some valid :=
    word32?_bytes32_append valid _
  rw [lifetimes?, first, second]
  rfl

theorem flags?_flagsAttribute (flags : UInt32) : flags? (flagsAttribute flags) = some flags := by
  have read := word32?_bytes32_append flags []
  rw [List.append_nil] at read
  exact read

end Attribute

theorem MessageType.newAddress_ne_delAddress : newAddress ≠ delAddress := by
  decide

namespace AddressMessage

/-- A message that is built from attributes is read as made of them. -/
theorem decode?_message (type flags : UInt16) (seq : UInt32) (length addressFlags scope : UInt8)
    (ifIndex : UInt32) {as : List Attribute} (fits : ∀ a ∈ as, a.Fits)
    (size : fixedLength + (as.flatMap Attribute.bytes).length < 0x100000000) :
    decode? (message type flags seq
        (addressHeader length addressFlags scope ifIndex ++ as.flatMap Attribute.bytes)) =
      some {
        type, flags, seq, family := familyIpv6, length, addressFlags, scope, ifIndex
        address := Attribute.last? Attribute.address? as
        lifetimes := Attribute.last? Attribute.lifetimes? as
        extendedFlags := Attribute.last? Attribute.flags? as } := by
  let body := as.flatMap Attribute.bytes
  let total := UInt32.ofNat (fixedLength + body.length)
  let h : Header :=
    ⟨total, type, flags, seq, 0, familyIpv6, length, addressFlags, scope, ifIndex⟩
  have octets : message type flags seq
      (addressHeader length addressFlags scope ifIndex ++ body) = h.bytes ++ body := by
    have count : headerLength + (addressHeader length addressFlags scope ifIndex ++ body).length =
        fixedLength + body.length := by
      simp only [addressHeader, List.length_append, length_bytes32, List.length_cons,
        List.length_nil, headerLength, fixedLength]
      omega
    rw [message, count, addressHeader]
    simp only [h, total, Header.bytes, List.append_assoc]
  have wide : total.toNat = fixedLength + body.length := by
    rw [UInt32.toNat_ofNat']
    exact Nat.mod_eq_of_lt size
  have inside : body.length ≤ total.toNat - fixedLength := by omega
  rw [octets, decode?_header_append, List.take_of_length_le inside,
    Attribute.scan_flatMap_bytes fits]
  rfl

/-- What a request to add an address says. -/
theorem decode?_newAddress (seq : UInt32) (r : AddressRequest) :
    decode? (newAddress seq r) = some {
      type := MessageType.newAddress
      flags := addFlags
      seq := seq
      family := familyIpv6
      length := r.length
      addressFlags := r.flags.toUInt8
      scope := r.scope
      ifIndex := r.ifIndex
      address := some r.address
      lifetimes := some (r.preferredLifetime, r.validLifetime)
      extendedFlags := some r.flags } := by
  let as := [addressAttribute r.address, lifetimeAttribute r.preferredLifetime r.validLifetime,
    flagsAttribute r.flags]
  have fits : ∀ a ∈ as, a.Fits := by
    simp only [as, List.forall_mem_cons]
    exact ⟨Attribute.fits_addressAttribute _, Attribute.fits_lifetimeAttribute _ _,
      Attribute.fits_flagsAttribute _, by simp⟩
  have size : fixedLength + (as.flatMap Attribute.bytes).length < 0x100000000 := by
    simp only [as, List.flatMap_cons, List.flatMap_nil, List.length_append,
      Attribute.length_bytes_addressAttribute, Attribute.length_bytes_lifetimeAttribute,
      Attribute.length_bytes_flagsAttribute]
    decide
  have body : newAddress seq r = message MessageType.newAddress addFlags seq
      (addressHeader r.length r.flags.toUInt8 r.scope r.ifIndex ++ as.flatMap Attribute.bytes) := by
    simp only [newAddress, as, List.flatMap_cons, List.flatMap_nil, List.append_nil,
      List.append_assoc]
  have address : Attribute.last? Attribute.address? as = some r.address := by
    simp [as, Attribute.last?, Attribute.address?, addressAttribute, lifetimeAttribute,
      flagsAttribute, AttributeKind.address, AttributeKind.cacheInfo, AttributeKind.flags]
  have lifetimes : Attribute.last? Attribute.lifetimes? as =
      some (r.preferredLifetime, r.validLifetime) := by
    have read := Attribute.lifetimes?_lifetimeAttribute r.preferredLifetime r.validLifetime
    have other : Attribute.lifetimes? (flagsAttribute r.flags) = none := rfl
    simp only [as, Attribute.last?, List.reverse_cons, List.reverse_nil, List.nil_append,
      List.cons_append, List.findSome?_cons, other, read]
  have flags : Attribute.last? Attribute.flags? as = some r.flags := by
    have read := Attribute.flags?_flagsAttribute r.flags
    simp [as, Attribute.last?, read]
  rw [body, decode?_message _ _ _ _ _ _ _ fits size, address, lifetimes, flags]

/-- What a request to remove an address says. -/
theorem decode?_delAddress (seq : UInt32) (a : Ipv6) (length : UInt8) (ifIndex : UInt32) :
    decode? (delAddress seq a length ifIndex) = some {
      type := MessageType.delAddress
      flags := removeFlags
      seq := seq
      family := familyIpv6
      length := length
      addressFlags := 0
      scope := 0
      ifIndex := ifIndex
      address := some a
      lifetimes := none
      extendedFlags := none } := by
  let as := [addressAttribute a]
  have fits : ∀ a ∈ as, a.Fits := by
    simp only [as, List.forall_mem_cons]
    exact ⟨Attribute.fits_addressAttribute _, by simp⟩
  have size : fixedLength + (as.flatMap Attribute.bytes).length < 0x100000000 := by
    simp only [as, List.flatMap_cons, List.flatMap_nil, List.length_append,
      Attribute.length_bytes_addressAttribute]
    decide
  have body : delAddress seq a length ifIndex = message MessageType.delAddress removeFlags seq
      (addressHeader length 0 0 ifIndex ++ as.flatMap Attribute.bytes) := by
    simp only [delAddress, as, List.flatMap_cons, List.flatMap_nil, List.append_nil]
  have address : Attribute.last? Attribute.address? as = some a := by
    simp [as, Attribute.last?, Attribute.address?, addressAttribute]
  rw [body, decode?_message _ _ _ _ _ _ _ fits size, address]
  rfl

end AddressMessage

/-! ## Whole messages -/

theorem length_message (type flags : UInt16) (seq : UInt32) (payload : List UInt8) :
    (message type flags seq payload).length = headerLength + payload.length := by
  simp [message, headerLength]
  omega

theorem word32?_message {type flags : UInt16} {seq : UInt32} {payload : List UInt8}
    (size : (message type flags seq payload).length < 0x100000000) :
    (word32? (message type flags seq payload)).map UInt32.toNat =
      some (message type flags seq payload).length := by
  rw [length_message] at size ⊢
  simp only [message, List.append_assoc, word32?_bytes32_append, Option.map_some,
    UInt32.toNat_ofNat', Nat.mod_eq_of_lt size]

@[simp] theorem length_newAddress (seq : UInt32) (r : AddressRequest) :
    (newAddress seq r).length = 72 := by
  rw [newAddress, length_message]
  simp [addressHeader, Attribute.length_bytes_addressAttribute,
    Attribute.length_bytes_lifetimeAttribute, Attribute.length_bytes_flagsAttribute, headerLength]

@[simp] theorem length_delAddress (seq : UInt32) (a : Ipv6) (length : UInt8) (ifIndex : UInt32) :
    (delAddress seq a length ifIndex).length = 44 := by
  rw [delAddress, length_message]
  simp [addressHeader, Attribute.length_bytes_addressAttribute, headerLength]

theorem newAddress_inj {seq seq' : UInt32} {r r' : AddressRequest} :
    newAddress seq r = newAddress seq' r' ↔ seq = seq' ∧ r = r' := by
  constructor
  · intro same
    have read := AddressMessage.decode?_newAddress seq r
    rw [same, AddressMessage.decode?_newAddress] at read
    cases r
    cases r'
    simp_all
  · rintro ⟨rfl, rfl⟩
    rfl

theorem delAddress_inj {seq seq' : UInt32} {a a' : Ipv6} {length length' : UInt8}
    {ifIndex ifIndex' : UInt32} :
    delAddress seq a length ifIndex = delAddress seq' a' length' ifIndex' ↔
      seq = seq' ∧ a = a' ∧ length = length' ∧ ifIndex = ifIndex' := by
  constructor
  · intro same
    have read := AddressMessage.decode?_delAddress seq a length ifIndex
    rw [same, AddressMessage.decode?_delAddress] at read
    simp_all
  · rintro ⟨rfl, rfl, rfl, rfl⟩
    rfl

/-- Octets are one whole message that says something: it reads so, it starts with the count of its
    octets, and it ends where the next message may start. -/
structure Says (octets : List UInt8) (m : AddressMessage) : Prop where
  reading : AddressMessage.decode? octets = some m
  total : (word32? octets).map UInt32.toNat = some octets.length
  aligned : 4 ∣ octets.length

/-- **Requests read back.** Whatever a request is built from, its octets say that and nothing else,
    and no other request has the same octets. -/
theorem requests_read_back :
    (∀ (seq : UInt32) (r : AddressRequest), Says (newAddress seq r) {
      type := 20
      flags := 0x505
      seq := seq
      family := 10
      length := r.length
      addressFlags := UInt8.ofNat (r.flags.toNat % 0x100)
      scope := r.scope
      ifIndex := r.ifIndex
      address := some r.address
      lifetimes := some (r.preferredLifetime, r.validLifetime)
      extendedFlags := some r.flags }) ∧
    (∀ (seq : UInt32) (a : Ipv6) (length : UInt8) (ifIndex : UInt32),
      Says (delAddress seq a length ifIndex) {
        type := 21
        flags := 0x5
        seq := seq
        family := 10
        length := length
        addressFlags := 0
        scope := 0
        ifIndex := ifIndex
        address := some a
        lifetimes := none
        extendedFlags := none }) ∧
    (∀ (seq seq' : UInt32) (r r' : AddressRequest),
      newAddress seq r = newAddress seq' r' ↔ seq = seq' ∧ r = r') ∧
    ∀ (seq seq' : UInt32) (a a' : Ipv6) (length length' : UInt8) (ifIndex ifIndex' : UInt32),
      delAddress seq a length ifIndex = delAddress seq' a' length' ifIndex' ↔
        seq = seq' ∧ a = a' ∧ length = length' ∧ ifIndex = ifIndex' := by
  refine ⟨?_, ?_, fun _ _ _ _ => newAddress_inj, fun _ _ _ _ _ _ _ _ => delAddress_inj⟩
  · intro seq r
    have low : r.flags.toUInt8 = UInt8.ofNat (r.flags.toNat % 0x100) :=
      UInt8.toNat_inj.1 (by simp)
    refine ⟨?_, word32?_message (by rw [← newAddress, length_newAddress]; decide), ?_⟩
    · rw [AddressMessage.decode?_newAddress, low]
      rfl
    · rw [length_newAddress]
      decide
  · intro seq a length ifIndex
    refine ⟨AddressMessage.decode?_delAddress seq a length ifIndex,
      word32?_message (by rw [← delAddress, length_delAddress]; decide), ?_⟩
    rw [length_delAddress]
    decide

end MeshLink.Netlink
