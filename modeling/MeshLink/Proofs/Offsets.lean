import MeshLink.Proofs.Format
set_option autoImplicit false

/-! # Reading by offsets

The octets of an address message lie in a buffer, and its lengths are whatever the sender wrote.
Here the reader goes through the buffer by offsets, and each octet it looks at is asked for: an
offset outside the buffer is an error (`octetAt`, `slice`). No such error ever occurs, whatever the
lengths are, and what is read is what `AddressMessage.decode?` reads (`AddressMessage.decodeAt_eq`).
-/

namespace MeshLink.Netlink

/-! ## Asking a buffer -/

/-- The octet at an offset; fails with an offset that is not in the buffer. -/
def octetAt (buffer : List UInt8) (offset : Nat) : Except Nat UInt8 :=
  match buffer[offset]? with
  | some octet => .ok octet
  | none => .error offset

/-- The two octets at an offset as a word, the lower one first. -/
def word16At (buffer : List UInt8) (offset : Nat) : Except Nat UInt16 := do
  let a ← octetAt buffer offset
  let b ← octetAt buffer (offset + 1)
  return UInt16.ofNat (a.toNat + 0x100 * b.toNat)

/-- The four octets at an offset as a word, the lowest one first. -/
def word32At (buffer : List UInt8) (offset : Nat) : Except Nat UInt32 := do
  let a ← octetAt buffer offset
  let b ← octetAt buffer (offset + 1)
  let c ← octetAt buffer (offset + 2)
  let d ← octetAt buffer (offset + 3)
  return UInt32.ofNat
    (a.toNat + 0x100 * b.toNat + 0x10000 * c.toNat + 0x1000000 * d.toNat)

/-- The octets from one offset up to another; fails if they are not all in the buffer. -/
def slice (buffer : List UInt8) (start stop : Nat) : Except Nat (List UInt8) :=
  if start ≤ stop ∧ stop ≤ buffer.length then .ok ((buffer.take stop).drop start) else .error stop

section
variable {buffer rest : List UInt8} {offset : Nat}

theorem octetAt_of_drop {octet : UInt8} {i : Nat} (h : buffer.drop offset = rest)
    (found : rest[i]? = some octet) : octetAt buffer (offset + i) = .ok octet := by
  rw [octetAt, ← List.getElem?_drop, h, found]

theorem drop_of_drop {octets : List UInt8} {next : Nat} (h : buffer.drop offset = octets ++ rest)
    (stop : offset + octets.length = next) : buffer.drop next = rest := by
  rw [← stop, ← List.drop_drop, h, List.drop_left]

theorem word16At_of_drop {w : UInt16} (h : buffer.drop offset = bytes16 w ++ rest) :
    word16At buffer offset = .ok w := by
  have first : octetAt buffer offset = _ := octetAt_of_drop (i := 0) h rfl
  rw [word16At, first, octetAt_of_drop (i := 1) h rfl]
  exact congrArg Except.ok (Option.some.inj (word16?_bytes16_append w rest))

theorem word32At_of_drop {w : UInt32} (h : buffer.drop offset = bytes32 w ++ rest) :
    word32At buffer offset = .ok w := by
  have first : octetAt buffer offset = _ := octetAt_of_drop (i := 0) h rfl
  rw [word32At, first, octetAt_of_drop (i := 1) h rfl, octetAt_of_drop (i := 2) h rfl,
    octetAt_of_drop (i := 3) h rfl]
  exact congrArg Except.ok (Option.some.inj (word32?_bytes32_append w rest))

theorem slice_of_drop {count : Nat} (h : buffer.drop offset = rest) (within : count ≤ rest.length)
    (inside : offset ≤ buffer.length) :
    slice buffer offset (offset + count) = .ok (rest.take count) := by
  have size : rest.length = buffer.length - offset := by rw [← h, List.length_drop]
  rw [slice, if_pos (by omega), List.drop_take, h, Nat.add_sub_cancel_left]

end

/-! ## What has been seen -/

/-- What the attributes so far carried. -/
structure Seen where
  address : Option Ipv6
  lifetimes : Option (UInt32 × UInt32)
  extendedFlags : Option UInt32

namespace Seen

/-- Before any attribute. -/
def nothing : Seen :=
  ⟨none, none, none⟩

/-- Takes in the attribute at an offset. Its payload has been cut out; the words in it are read from
    the buffer all the same. -/
def look (seen : Seen) (buffer : List UInt8) (offset : Nat) (kind : UInt16)
    (payload : List UInt8) : Except Nat Seen :=
  if kind = AttributeKind.address ∧ payload.length = 16 then
    return { seen with address := Ipv6.ofOctets? payload }
  else if kind = AttributeKind.cacheInfo ∧ 8 ≤ payload.length then do
    let preferred ← word32At buffer (offset + 4)
    let valid ← word32At buffer (offset + 8)
    return { seen with lifetimes := some (preferred, valid) }
  else if kind = AttributeKind.flags ∧ 4 ≤ payload.length then do
    let flags ← word32At buffer (offset + 4)
    return { seen with extendedFlags := some flags }
  else
    return seen

/-- What has been seen behind these attributes: the last of each counts. -/
def behind (seen : Seen) (as : List Attribute) : Seen where
  address := (Attribute.last? Attribute.address? as).or seen.address
  lifetimes := (Attribute.last? Attribute.lifetimes? as).or seen.lifetimes
  extendedFlags := (Attribute.last? Attribute.flags? as).or seen.extendedFlags

theorem behind_nil (seen : Seen) : seen.behind [] = seen := rfl

theorem behind_cons (seen : Seen) (a : Attribute) (as : List Attribute) :
    seen.behind (a :: as) = (seen.behind [a]).behind as := by
  simp [behind, Attribute.last?, List.findSome?_append, Option.or_assoc]

theorem behind_singleton (seen : Seen) (a : Attribute) :
    seen.behind [a] = ⟨a.address?.or seen.address, a.lifetimes?.or seen.lifetimes,
      a.flags?.or seen.extendedFlags⟩ := by
  simp [behind, Attribute.last?]

/-- An attribute that stands in the buffer is taken in. -/
theorem look_of_drop {buffer payload rest : List UInt8} {offset : Nat}
    (h : buffer.drop (offset + 4) = payload ++ rest) (seen : Seen) (kind : UInt16) :
    seen.look buffer offset kind payload = .ok (seen.behind [⟨kind, payload⟩]) := by
  rw [look, behind_singleton]
  -- Both readers look at the kind and the size alone, so they part at the same cases.
  by_cases address : kind = AttributeKind.address ∧ payload.length = 16
  · obtain ⟨rfl, size⟩ := address
    have read : Attribute.address? ⟨AttributeKind.address, payload⟩ = some ⟨payload, size⟩ :=
      dif_pos size
    rw [if_pos ⟨rfl, size⟩, read, Ipv6.ofOctets?, dif_pos size]
    rfl
  rw [if_neg address, Attribute.address?_eq_none_iff.2 address]
  by_cases lifetimes : kind = AttributeKind.cacheInfo ∧ 8 ≤ payload.length
  · obtain ⟨rfl, size⟩ := lifetimes
    obtain ⟨preferred, others, rfl⟩ := exists_bytes32 (show 4 ≤ payload.length by omega)
    rw [if_pos ⟨rfl, size⟩]
    rw [List.length_append, length_bytes32] at size
    obtain ⟨valid, more, rfl⟩ := exists_bytes32 (show 4 ≤ others.length by omega)
    simp only [List.append_assoc] at h
    have second : word32At buffer (offset + 8) = .ok valid :=
      word32At_of_drop (drop_of_drop h rfl)
    have read : Attribute.lifetimes?
        ⟨AttributeKind.cacheInfo, bytes32 preferred ++ (bytes32 valid ++ more)⟩ =
          some (preferred, valid) := by
      rw [Attribute.lifetimes?, if_pos rfl, word32?_bytes32_append,
        List.drop_left' (length_bytes32 _), word32?_bytes32_append]
      rfl
    rw [word32At_of_drop h, second, read]
    rfl
  rw [if_neg lifetimes, Attribute.lifetimes?_eq_none_iff.2 lifetimes]
  by_cases flags : kind = AttributeKind.flags ∧ 4 ≤ payload.length
  · obtain ⟨rfl, size⟩ := flags
    obtain ⟨flags, more, rfl⟩ := exists_bytes32 size
    have read : Attribute.flags? ⟨AttributeKind.flags, bytes32 flags ++ more⟩ = some flags := by
      rw [Attribute.flags?, if_pos rfl, word32?_bytes32_append]
    rw [List.append_assoc] at h
    rw [if_pos ⟨rfl, size⟩, word32At_of_drop h, read]
    rfl
  rw [if_neg flags, Attribute.flags?_eq_none_iff.2 flags]
  rfl

end Seen

/-! ## The walk -/

namespace AddressMessage

/-- Walks the attributes from an offset up to the end of the message, and says what they carry. -/
def walkAt (buffer : List UInt8) (total offset : Nat) (seen : Seen) : Except Nat Seen :=
  if offset + 4 ≤ total then do
    let length ← word16At buffer offset
    let kind ← word16At buffer (offset + 2)
    if length.toNat < 4 ∨ total < offset + length.toNat then
      return seen
    else
      let payload ← slice buffer (offset + 4) (offset + length.toNat)
      let seen ← seen.look buffer offset kind payload
      walkAt buffer total (offset + Attribute.align length.toNat) seen
  else
    return seen
termination_by total - offset
decreasing_by
  have := Attribute.le_align length.toNat
  omega

/-- Reads the message at the start of a buffer. -/
def decodeAt (buffer : List UInt8) : Except Nat (Option AddressMessage) := do
  if buffer.length < 24 then
    return none
  let declared ← word32At buffer 0
  let total := min declared.toNat buffer.length
  let type ← word16At buffer 4
  let flags ← word16At buffer 6
  let seq ← word32At buffer 8
  let family ← octetAt buffer 16
  let length ← octetAt buffer 17
  let addressFlags ← octetAt buffer 18
  let scope ← octetAt buffer 19
  let ifIndex ← word32At buffer 20
  let seen ← walkAt buffer total 24 Seen.nothing
  return some {
    type, flags, seq, family, length, addressFlags, scope, ifIndex
    address := seen.address
    lifetimes := seen.lifetimes
    extendedFlags := seen.extendedFlags }

section
variable {buffer body : List UInt8} {total offset : Nat} {length kind : UInt16}

theorem drop_eq_append (inside : total ≤ buffer.length) (before : offset ≤ total) :
    buffer.drop offset = (buffer.take total).drop offset ++ buffer.drop total := by
  rw [← List.drop_append_of_le_length (by rw [List.length_take]; omega), List.take_append_drop]

theorem total_eq_of_header (inside : total ≤ buffer.length)
    (header : (buffer.take total).drop offset = bytes16 length ++ (bytes16 kind ++ body)) :
    total = offset + 4 + body.length := by
  have count := congrArg List.length header
  simp only [List.length_drop, List.length_append, length_bytes16, List.length_take,
    Nat.min_eq_left inside] at count
  omega

/-- One turn of the walk, at the header of an attribute. -/
theorem walkAt_of_header (inside : total ≤ buffer.length)
    (header : (buffer.take total).drop offset = bytes16 length ++ (bytes16 kind ++ body))
    (seen : Seen) :
    walkAt buffer total offset seen =
      if length.toNat < 4 ∨ total < offset + length.toNat then .ok seen
      else walkAt buffer total (offset + Attribute.align length.toNat)
        (seen.behind [⟨kind, body.take (length.toNat - 4)⟩]) := by
  have size := total_eq_of_header inside header
  have whole := drop_eq_append inside (show offset ≤ total by omega)
  rw [header, List.append_assoc, List.append_assoc] at whole
  have second : buffer.drop (offset + 2) = bytes16 kind ++ (body ++ buffer.drop total) :=
    drop_of_drop whole rfl
  have behind : buffer.drop (offset + 4) = body ++ buffer.drop total := drop_of_drop second rfl
  rw [walkAt, if_pos (by omega), word16At_of_drop whole, word16At_of_drop second]
  show (if length.toNat < 4 ∨ total < offset + length.toNat then _ else _) = _
  by_cases stops : length.toNat < 4 ∨ total < offset + length.toNat
  · rw [if_pos stops, if_pos stops]
    rfl
  · let payload := body.take (length.toNat - 4)
    have cut : slice buffer (offset + 4) (offset + length.toNat) = .ok payload := by
      have found := slice_of_drop behind (show length.toNat - 4 ≤ _ by
        rw [List.length_append]; omega) (by omega)
      rw [List.take_append_of_le_length (by omega)] at found
      rwa [show offset + length.toNat = offset + 4 + (length.toNat - 4) by omega]
    have standing : buffer.drop (offset + 4) =
        payload ++ (body.drop (length.toNat - 4) ++ buffer.drop total) := by
      rw [← List.append_assoc, List.take_append_drop, behind]
    rw [if_neg stops, if_neg stops, cut]
    show (do
      let seen ← seen.look buffer offset kind payload
      walkAt buffer total (offset + Attribute.align length.toNat) seen) = _
    rw [Seen.look_of_drop standing]
    rfl

/-- The walk over the octets of the message, at the same header. -/
theorem scan_of_header (inside : total ≤ buffer.length)
    (header : (buffer.take total).drop offset = bytes16 length ++ (bytes16 kind ++ body)) :
    Attribute.scan ((buffer.take total).drop offset) =
      if length.toNat < 4 ∨ total < offset + length.toNat then []
      else ⟨kind, body.take (length.toNat - 4)⟩ ::
        Attribute.scan ((buffer.take total).drop (offset + Attribute.align length.toNat)) := by
  have size := total_eq_of_header inside header
  rw [header, Attribute.scan_header, Attribute.headerLength]
  by_cases stops : length.toNat < 4 ∨ total < offset + length.toNat
  · rw [if_pos stops, if_pos (by omega)]
  · have next := Attribute.le_align length.toNat
    have others : body.drop (Attribute.align length.toNat - 4) =
        (buffer.take total).drop (offset + Attribute.align length.toNat) := by
      have behind : (buffer.take total).drop (offset + 4) = body :=
        drop_of_drop (drop_of_drop header rfl) rfl
      rw [← behind, List.drop_drop]
      congr 1
      omega
    rw [if_neg stops, if_neg (by omega), others]

end

/-- **The walk stays inside the buffer**, whatever lengths it meets, and finds what is there. -/
theorem walkAt_eq {buffer : List UInt8} {total : Nat} (inside : total ≤ buffer.length)
    (offset : Nat) (seen : Seen) :
    walkAt buffer total offset seen =
      .ok (seen.behind (Attribute.scan ((buffer.take total).drop offset))) := by
  have size : ((buffer.take total).drop offset).length = total - offset := by
    rw [List.length_drop, List.length_take, Nat.min_eq_left inside]
  by_cases room : offset + 4 ≤ total
  · obtain ⟨length, others, header⟩ :=
      exists_bytes16 (show 2 ≤ ((buffer.take total).drop offset).length by omega)
    rw [header, List.length_append, length_bytes16] at size
    obtain ⟨kind, body, rfl⟩ := exists_bytes16 (show 2 ≤ others.length by omega)
    rw [walkAt_of_header inside header, scan_of_header inside header]
    by_cases stops : length.toNat < 4 ∨ total < offset + length.toNat
    · rw [if_pos stops, if_pos stops, Seen.behind_nil]
    · have next := Attribute.le_align length.toNat
      rw [if_neg stops, if_neg stops,
        walkAt_eq inside (offset + Attribute.align length.toNat), ← Seen.behind_cons]
  · rw [walkAt, if_neg room,
      Attribute.scan_of_short (by rw [size, Attribute.headerLength]; omega)]
    rfl
termination_by total - offset

/-- No offset leaves the buffer, and what is read is what the message says. -/
theorem decodeAt_eq (buffer : List UInt8) : decodeAt buffer = .ok (decode? buffer) := by
  rw [decodeAt]
  by_cases short : buffer.length < 24
  · rw [if_pos short, decode?_of_short short]
    rfl
  · obtain ⟨h, rest, parts⟩ := Header.exists_of_length (Nat.le_of_not_lt short)
    -- The fields of the header one after another, each at its offset.
    have total : buffer.drop 0 = bytes32 h.total ++ (bytes16 h.type ++ (bytes16 h.flags ++
      (bytes32 h.seq ++ (bytes32 h.port ++ (h.family :: h.length :: h.addressFlags :: h.scope ::
        (bytes32 h.ifIndex ++ rest)))))) := parts.trans (h.bytes_append rest)
    have type : buffer.drop 4 = _ := drop_of_drop total rfl
    have flags : buffer.drop 6 = _ := drop_of_drop type rfl
    have seq : buffer.drop 8 = _ := drop_of_drop flags rfl
    have port : buffer.drop 12 = _ := drop_of_drop seq rfl
    have octets : buffer.drop 16 = _ := drop_of_drop port rfl
    have family : octetAt buffer 16 = .ok h.family := octetAt_of_drop (i := 0) octets rfl
    have length : octetAt buffer 17 = .ok h.length := octetAt_of_drop (i := 1) octets rfl
    have addressFlags : octetAt buffer 18 = .ok h.addressFlags :=
      octetAt_of_drop (i := 2) octets rfl
    have scope : octetAt buffer 19 = .ok h.scope := octetAt_of_drop (i := 3) octets rfl
    have ifIndex : buffer.drop 20 = bytes32 h.ifIndex ++ rest :=
      drop_of_drop (show buffer.drop 16 = [h.family, h.length, h.addressFlags, h.scope] ++ _
        from octets) rfl
    have body : (buffer.take (min h.total.toNat buffer.length)).drop 24 =
        rest.take (h.total.toNat - fixedLength) := by
      rw [← List.take_eq_take_min, List.drop_take, parts,
        List.drop_left' (show h.bytes.length = 24 from rfl)]
      rfl
    rw [if_neg short, word32At_of_drop total, word16At_of_drop type, word16At_of_drop flags,
      word32At_of_drop seq, family, length, addressFlags, scope, word32At_of_drop ifIndex]
    show (do
      let seen ← walkAt buffer (min h.total.toNat buffer.length) 24 Seen.nothing
      _) = _
    rw [walkAt_eq (Nat.min_le_right ..), body, parts, decode?_header_append]
    simp only [Seen.behind, Seen.nothing, Option.or_none]
    rfl

/-- What is behind the message's own length is not looked at. -/
theorem decode?_append {buffer suffix : List UInt8} {declared : UInt32}
    (long : 24 ≤ buffer.length) (total : word32? buffer = some declared)
    (inside : declared.toNat ≤ buffer.length) :
    decode? (buffer ++ suffix) = decode? buffer := by
  obtain ⟨h, rest, rfl⟩ := Header.exists_of_length long
  rw [h.bytes_append, word32?_bytes32_append] at total
  cases total
  rw [List.length_append, h.length_bytes] at inside
  rw [List.append_assoc, decode?_header_append, decode?_header_append,
    List.take_append_of_le_length (by omega)]

/-- **The decoder is robust.** On any octets it comes to an end and stays inside the buffer, it
    gives up exactly on what is shorter than a header, and it does not look behind the length that
    the message declares. -/
theorem decoder_stays_inside :
    (∀ buffer : List UInt8, decodeAt buffer = .ok (decode? buffer)) ∧
    (∀ buffer : List UInt8, decode? buffer = none ↔ buffer.length < 24) ∧
    ∀ (buffer suffix : List UInt8) (declared : UInt32), 24 ≤ buffer.length →
      word32? buffer = some declared → declared.toNat ≤ buffer.length →
      decode? (buffer ++ suffix) = decode? buffer :=
  ⟨decodeAt_eq, fun _ => decode?_eq_none_iff, fun _ _ _ => decode?_append⟩

/-- An attribute that claims more octets than the message has is not completed by what follows. -/
theorem decoder_stays_inside_at_torn_attribute :
    let buffer : List UInt8 := [30, 0, 0, 0, 20, 0, 5, 5, 7, 0, 0, 0, 0, 0, 0, 0, 10, 64, 0, 0,
      3, 0, 0, 0, 8, 0, 8, 0, 1, 2]
    (decode? buffer).isSome ∧ decode? (buffer ++ [3, 4]) = decode? buffer ∧
      decodeAt (buffer ++ [3, 4]) = .ok (decode? buffer) := by
  intro buffer
  have whole : decode? (buffer ++ [3, 4]) = decode? buffer :=
    decoder_stays_inside.2.2 buffer [3, 4] 30 (by decide) (by decide) (by decide)
  exact ⟨by decide +kernel, whole, by rw [decoder_stays_inside.1, whole]⟩

end AddressMessage
end MeshLink.Netlink
