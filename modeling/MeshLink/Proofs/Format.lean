import MeshLink.Netlink.AddressMessage
set_option autoImplicit false

/-! # The format of an address message

An address message is a fixed part of 24 octets, whose first word counts the octets of all of it,
and a body of attributes. What the padding of an attribute holds is left open, and so are the kinds
and sizes of attributes: of each thing that is read, the last attribute of its kind and size counts
(`Attribute.lastOf`), and all the others are passed over.

Any octets are the fixed part that some header writes (`Header.exists_of_length`), and behind it the
walk finds the attributes that are there (`Attribute.scan_of_allWritten`). -/

namespace MeshLink.Netlink

/-! ## Attributes -/

namespace Attribute

/-- The length of the payload leaves room for the header in a 16-bit word. -/
def Fits (a : Attribute) : Prop :=
  headerLength + a.payload.length < 0x10000

/-- The octets are those of the attribute: its length, its kind, its payload and, up to the next
    multiple of four, any octets. -/
def Written (a : Attribute) (bs : List UInt8) : Prop :=
  let length := headerLength + a.payload.length
  ∃ padding : List UInt8, padding.length = align length - length ∧
    bs = bytes16 (UInt16.ofNat length) ++ bytes16 a.kind ++ a.payload ++ padding

/-- The octets are those of the attributes, one after another. -/
inductive AllWritten : List Attribute → List UInt8 → Prop
  | nil : AllWritten [] []
  | cons {a : Attribute} {as : List Attribute} {bs rest : List UInt8} :
      a.Written bs → AllWritten as rest → AllWritten (a :: as) (bs ++ rest)

theorem written_bytes (a : Attribute) : a.Written a.bytes :=
  ⟨_, List.length_replicate, rfl⟩

theorem allWritten_flatMap_bytes (as : List Attribute) : AllWritten as (as.flatMap bytes) := by
  induction as with
  | nil => exact .nil
  | cons a as ih =>
      rw [List.flatMap_cons]
      exact .cons a.written_bytes ih

theorem scan_of_short {bs : List UInt8} (short : bs.length < headerLength) : scan bs = [] := by
  match bs, short with
  | [], _ | [_], _ | [_, _], _ | [_, _, _], _ => rw [scan, walk]; simp

/-- An attribute is found if it fits into what is there, and the walk goes on behind its padding. -/
theorem scan_header (length kind : UInt16) (body : List UInt8) :
    scan (bytes16 length ++ (bytes16 kind ++ body)) =
      if length.toNat < headerLength ∨ headerLength + body.length < length.toNat then []
      else ⟨kind, body.take (length.toNat - headerLength)⟩ ::
        scan (body.drop (align length.toNat - headerLength)) := by
  have size := toNat_bytes16 length
  have type := toNat_bytes16 kind
  rw [scan]
  show (walk (_ :: _ :: _ :: _ :: body)).1 = _
  rw [walk, size, type, UInt16.ofNat_toNat]
  split <;> rfl

/-- The walk finds an attribute that is there and goes on behind it. -/
theorem scan_append_of_written {a : Attribute} (fits : a.Fits) {bs : List UInt8}
    (written : a.Written bs) (rest : List UInt8) : scan (bs ++ rest) = a :: scan rest := by
  obtain ⟨padding, count, rfl⟩ := written
  rw [Fits] at fits
  have room := le_align (headerLength + a.payload.length)
  generalize size : headerLength + a.payload.length = length at fits count room ⊢
  have declared : (UInt16.ofNat length).toNat = length := by
    rw [UInt16.toNat_ofNat']
    exact Nat.mod_eq_of_lt fits
  -- The declared length fits, so the walk does not stop here.
  have within : ¬ (length < headerLength ∨
      headerLength + (a.payload ++ (padding ++ rest)).length < length) := by
    rw [List.length_append]
    omega
  have payload : (a.payload ++ (padding ++ rest)).take (length - headerLength) = a.payload :=
    List.take_left' (by omega)
  have skipped : (a.payload ++ (padding ++ rest)).drop (align length - headerLength) = rest := by
    rw [← List.append_assoc]
    refine List.drop_left' ?_
    rw [List.length_append, count]
    omega
  simp only [List.append_assoc]
  rw [scan_header, declared, if_neg within, payload, skipped]

/-- **The walk finds what is there**, whatever the padding holds. -/
theorem scan_of_allWritten {as : List Attribute} {bs : List UInt8} (written : AllWritten as bs)
    (fits : ∀ a ∈ as, a.Fits) : scan bs = as := by
  induction written with
  | nil => exact scan_of_short (by decide)
  | cons first _ ih =>
      rw [scan_append_of_written (fits _ List.mem_cons_self) first,
        ih fun a ha => fits a (List.mem_cons_of_mem _ ha)]

/-- The last attribute of a kind whose payload has one of the sizes. -/
def lastOf (kind : UInt16) (sizes : Nat → Prop) [DecidablePred sizes] (as : List Attribute) :
    Option Attribute :=
  (as.filter fun a => a.kind = kind ∧ sizes a.payload.length).getLast?

/-- The attribute carries something: it is of a kind that is known and has a size that is right for
    its kind. -/
def Carries (a : Attribute) : Prop :=
  (a.kind = 1 ∧ a.payload.length = 16) ∨ (a.kind = 6 ∧ 8 ≤ a.payload.length) ∨
    (a.kind = 8 ∧ 4 ≤ a.payload.length)
deriving Decidable

section
variable {α β : Type} {read : Attribute → Option α} {kind : UInt16} {sizes : Nat → Prop}
  [DecidablePred sizes] {inside : α → β} {outside : Attribute → β}

/-- The last thing that is read is what the last attribute of its kind and size carries, if that is
    so of each attribute. -/
theorem last?_map
    (each : ∀ a : Attribute, (read a).map inside =
      if a.kind = kind ∧ sizes a.payload.length then some (outside a) else none)
    (as : List Attribute) :
    (last? read as).map inside = (lastOf kind sizes as).map outside := by
  rw [last?, lastOf, List.getLast?_eq_head?_reverse, ← List.filter_reverse, List.head?_filter,
    List.find?_eq_findSome?_guard, List.map_findSome?, List.map_findSome?]
  congr 1
  funext a
  rw [Function.comp, each, Function.comp, Option.guard_apply]
  split <;> simp_all

theorem eq_none_iff_of_map (sizes : Nat → Prop) [DecidablePred sizes]
    (each : ∀ a : Attribute, (read a).map inside =
      if a.kind = kind ∧ sizes a.payload.length then some (outside a) else none)
    {a : Attribute} : read a = none ↔ ¬ (a.kind = kind ∧ sizes a.payload.length) := by
  rw [← Option.map_eq_none_iff, each]
  split <;> simp_all

theorem last?_filter_carries (nothing : ∀ a : Attribute, ¬ a.Carries → read a = none)
    (as : List Attribute) : last? read (as.filter Carries) = last? read as := by
  rw [last?, last?, ← List.filter_reverse]
  induction as.reverse with
  | nil => rfl
  | cons a as ih =>
      by_cases carries : a.Carries
      · rw [List.filter_cons_of_pos (by simpa using carries), List.findSome?_cons,
          List.findSome?_cons, ih]
      · rw [List.filter_cons_of_neg (by simpa using carries), ih, List.findSome?_cons,
          nothing a carries]

end

theorem map_address? (a : Attribute) : a.address?.map Ipv6.octets =
    if a.kind = AttributeKind.address ∧ a.payload.length = 16 then some a.payload else none := by
  rw [address?, Ipv6.ofOctets?]
  by_cases kind : a.kind = AttributeKind.address
  · by_cases size : a.payload.length = 16
    · simp [kind, size]
    · simp [kind, size]
  · rw [if_neg kind, if_neg (kind ·.1)]
    rfl

theorem address?_eq_none_iff {a : Attribute} :
    a.address? = none ↔ ¬ (a.kind = AttributeKind.address ∧ a.payload.length = 16) :=
  eq_none_iff_of_map (· = 16) map_address?

theorem map_lifetimes? (a : Attribute) :
    (a.lifetimes?.map fun (preferred, valid) => bytes32 preferred ++ bytes32 valid) =
      if a.kind = AttributeKind.cacheInfo ∧ 8 ≤ a.payload.length then some (a.payload.take 8)
      else none := by
  rw [lifetimes?]
  by_cases kind : a.kind = AttributeKind.cacheInfo
  · rw [if_pos kind]
    by_cases size : 8 ≤ a.payload.length
    · rw [if_pos ⟨kind, size⟩]
      obtain ⟨preferred, others, first⟩ := exists_bytes32 (show 4 ≤ a.payload.length by omega)
      rw [first, List.length_append, length_bytes32] at size
      obtain ⟨valid, rest, rfl⟩ := exists_bytes32 (show 4 ≤ others.length by omega)
      rw [first, word32?_bytes32_append, List.drop_left' (length_bytes32 _),
        word32?_bytes32_append]
      rfl
    · rw [if_neg (size ·.2), word32?_eq_none_iff.2 (show (a.payload.drop 4).length < 4 by
        rw [List.length_drop]; omega)]
      cases word32? a.payload <;> rfl
  · rw [if_neg kind, if_neg (kind ·.1)]
    rfl

theorem lifetimes?_eq_none_iff {a : Attribute} :
    a.lifetimes? = none ↔ ¬ (a.kind = AttributeKind.cacheInfo ∧ 8 ≤ a.payload.length) :=
  eq_none_iff_of_map (8 ≤ ·) map_lifetimes?

theorem map_flags? (a : Attribute) : a.flags?.map bytes32 =
    if a.kind = AttributeKind.flags ∧ 4 ≤ a.payload.length then some (a.payload.take 4)
    else none := by
  rw [flags?]
  by_cases kind : a.kind = AttributeKind.flags
  · rw [if_pos kind]
    by_cases size : 4 ≤ a.payload.length
    · rw [if_pos ⟨kind, size⟩]
      obtain ⟨flags, rest, first⟩ := exists_bytes32 size
      rw [first, word32?_bytes32_append]
      rfl
    · rw [if_neg (size ·.2), word32?_eq_none_iff.2 (by omega)]
      rfl
  · rw [if_neg kind, if_neg (kind ·.1)]
    rfl

theorem flags?_eq_none_iff {a : Attribute} :
    a.flags? = none ↔ ¬ (a.kind = AttributeKind.flags ∧ 4 ≤ a.payload.length) :=
  eq_none_iff_of_map (4 ≤ ·) map_flags?

end Attribute

/-! ## The fixed part -/

/-- What the fixed part of an address message holds. -/
structure Header where
  total : UInt32
  type : UInt16
  flags : UInt16
  seq : UInt32
  /-- The number of the sender. -/
  port : UInt32
  family : UInt8
  length : UInt8
  addressFlags : UInt8
  scope : UInt8
  ifIndex : UInt32
deriving DecidableEq

namespace Header

/-- The octets of a fixed part, the fields one after another. -/
def bytes (h : Header) : List UInt8 :=
  bytes32 h.total ++ bytes16 h.type ++ bytes16 h.flags ++ bytes32 h.seq ++ bytes32 h.port ++
    [h.family, h.length, h.addressFlags, h.scope] ++ bytes32 h.ifIndex

@[simp] theorem length_bytes (h : Header) : h.bytes.length = AddressMessage.fixedLength := rfl

theorem bytes_append (h : Header) (rest : List UInt8) :
    h.bytes ++ rest = bytes32 h.total ++ (bytes16 h.type ++ (bytes16 h.flags ++
      (bytes32 h.seq ++ (bytes32 h.port ++ (h.family :: h.length :: h.addressFlags :: h.scope ::
        (bytes32 h.ifIndex ++ rest)))))) := by
  simp only [bytes, List.append_assoc]
  rfl

theorem exists_of_length {bs : List UInt8} (long : AddressMessage.fixedLength ≤ bs.length) :
    ∃ (h : Header) (rest : List UInt8), bs = h.bytes ++ rest := by
  rw [AddressMessage.fixedLength] at long
  obtain ⟨total, bs, rfl⟩ := exists_bytes32 (show 4 ≤ bs.length by omega)
  simp only [List.length_append, length_bytes32] at long
  obtain ⟨type, bs, rfl⟩ := exists_bytes16 (show 2 ≤ bs.length by omega)
  simp only [List.length_append, length_bytes16] at long
  obtain ⟨flags, bs, rfl⟩ := exists_bytes16 (show 2 ≤ bs.length by omega)
  simp only [List.length_append, length_bytes16] at long
  obtain ⟨seq, bs, rfl⟩ := exists_bytes32 (show 4 ≤ bs.length by omega)
  simp only [List.length_append, length_bytes32] at long
  obtain ⟨port, bs, rfl⟩ := exists_bytes32 (show 4 ≤ bs.length by omega)
  simp only [List.length_append, length_bytes32] at long
  have long : 8 ≤ bs.length := by omega
  match bs, long with
  | family :: length :: addressFlags :: scope :: bs, long =>
      simp only [List.length_cons] at long
      obtain ⟨ifIndex, rest, rfl⟩ := exists_bytes32 (show 4 ≤ bs.length by omega)
      exact ⟨⟨total, type, flags, seq, port, family, length, addressFlags, scope, ifIndex⟩, rest,
        by simp [bytes]⟩

/-- What a message says that has this header and these attributes. -/
def message (h : Header) (as : List Attribute) : AddressMessage where
  type := h.type
  flags := h.flags
  seq := h.seq
  family := h.family
  length := h.length
  addressFlags := h.addressFlags
  scope := h.scope
  ifIndex := h.ifIndex
  address := Attribute.last? Attribute.address? as
  lifetimes := Attribute.last? Attribute.lifetimes? as
  extendedFlags := Attribute.last? Attribute.flags? as

end Header

namespace AddressMessage

/-- A message is read as its header and the attributes within its own length. -/
theorem decode?_header_append (h : Header) (rest : List UInt8) :
    decode? (h.bytes ++ rest) =
      some (h.message (Attribute.scan (rest.take (h.total.toNat - fixedLength)))) := by
  -- Each reader finds its own field at its offset.
  have parts := h.bytes_append rest
  have total? : word32? (h.bytes ++ rest) = some h.total := by
    rw [parts]
    exact word32?_bytes32_append h.total _
  have type? : word16? ((h.bytes ++ rest).drop 4) = some h.type := by
    rw [parts]
    exact word16?_bytes16_append h.type _
  have flags? : word16? ((h.bytes ++ rest).drop 6) = some h.flags := by
    rw [parts]
    exact word16?_bytes16_append h.flags _
  have seq? : word32? ((h.bytes ++ rest).drop 8) = some h.seq := by
    rw [parts]
    exact word32?_bytes32_append h.seq _
  have fixed : (h.bytes ++ rest).drop 16 =
      h.family :: h.length :: h.addressFlags :: h.scope :: (bytes32 h.ifIndex ++ rest) := by
    rw [parts]
    rfl
  have body : ((h.bytes ++ rest).take h.total.toNat).drop fixedLength =
      rest.take (h.total.toNat - fixedLength) := by
    rw [List.drop_take, List.drop_left' h.length_bytes]
  simp only [decode?, total?, type?, flags?, seq?, fixed, body, word32?_bytes32_append,
    Option.bind_eq_bind, Option.bind_some, Option.pure_def, Header.message]

theorem decode?_of_short {bs : List UInt8} (short : bs.length < fixedLength) :
    decode? bs = none := by
  have unread : ∀ family length addressFlags scope index,
      bs.drop 16 = family :: length :: addressFlags :: scope :: index → word32? index = none := by
    intro family length addressFlags scope index fixed
    have count := congrArg List.length fixed
    rw [fixedLength] at short
    simp only [List.length_drop, List.length_cons] at count
    exact word32?_eq_none_iff.2 (by omega)
  simp only [decode?, Option.bind_eq_bind, Option.bind_eq_none_iff]
  intro total _ type _ flags _ seq _
  split
  next fixed =>
    rw [unread _ _ _ _ _ fixed]
    rfl
  · rfl

theorem decode?_eq_none_iff {bs : List UInt8} : decode? bs = none ↔ bs.length < fixedLength := by
  refine ⟨fun unread => Nat.lt_of_not_le fun long => ?_, decode?_of_short⟩
  obtain ⟨h, rest, rfl⟩ := Header.exists_of_length long
  rw [decode?_header_append] at unread
  cases unread

/-! ## What is read -/

/-- What is read of a message with this header and these attributes: the fields of the header as
    they stand, and for each thing that an attribute carries the payload of the last attribute of
    its kind and size. -/
structure Reads (h : Header) (as : List Attribute) (m : AddressMessage) : Prop where
  type : m.type = h.type
  flags : m.flags = h.flags
  seq : m.seq = h.seq
  family : m.family = h.family
  length : m.length = h.length
  addressFlags : m.addressFlags = h.addressFlags
  scope : m.scope = h.scope
  ifIndex : m.ifIndex = h.ifIndex
  address : m.address.map Ipv6.octets =
    (Attribute.lastOf 1 (· = 16) as).map Attribute.payload
  lifetimes : (m.lifetimes.map fun (preferred, valid) => bytes32 preferred ++ bytes32 valid) =
    (Attribute.lastOf 6 (8 ≤ ·) as).map fun a => a.payload.take 8
  extendedFlags : m.extendedFlags.map bytes32 =
    (Attribute.lastOf 8 (4 ≤ ·) as).map fun a => a.payload.take 4

variable {h : Header} {as : List Attribute} {octets : List UInt8}

theorem reads_message (h : Header) (as : List Attribute) : Reads h as (h.message as) where
  type := rfl
  flags := rfl
  seq := rfl
  family := rfl
  length := rfl
  addressFlags := rfl
  scope := rfl
  ifIndex := rfl
  address := Attribute.last?_map Attribute.map_address? as
  lifetimes := Attribute.last?_map Attribute.map_lifetimes? as
  extendedFlags := Attribute.last?_map Attribute.map_flags? as

/-- Only the attributes that carry something count for what a message says. -/
theorem message_filter_carries (h : Header) (as : List Attribute) :
    h.message (as.filter Attribute.Carries) = h.message as := by
  have address := Attribute.last?_filter_carries
    (fun _ idle => Attribute.address?_eq_none_iff.2 fun it => idle (.inl it)) as
  have lifetimes := Attribute.last?_filter_carries
    (fun _ idle => Attribute.lifetimes?_eq_none_iff.2 fun it => idle (.inr (.inl it))) as
  have flags := Attribute.last?_filter_carries
    (fun _ idle => Attribute.flags?_eq_none_iff.2 fun it => idle (.inr (.inr it))) as
  rw [Header.message, Header.message, address, lifetimes, flags]

/-- The octets are the message of a header and attributes: the header, whose first word counts the
    octets of all, and behind it each attribute after the one before. -/
structure Renders (h : Header) (as : List Attribute) (octets : List UInt8) : Prop where
  parts : ∃ body, Attribute.AllWritten as body ∧ octets = h.bytes ++ body
  payloads : ∀ a ∈ as, a.payload.length ≤ 65531
  total : h.total.toNat = octets.length

theorem Renders.decode? (rendered : Renders h as octets) :
    decode? octets = some (h.message as) := by
  obtain ⟨body, written, rfl⟩ := rendered.parts
  have fits : ∀ a ∈ as, a.Fits := by
    intro a ha
    have := rendered.payloads a ha
    rw [Attribute.Fits, Attribute.headerLength]
    omega
  have inside : body.length ≤ h.total.toNat - fixedLength := by
    rw [rendered.total, List.length_append, Header.length_bytes]
    omega
  rw [decode?_header_append, List.take_of_length_le inside,
    Attribute.scan_of_allWritten written fits]

/-- **The decoder meets the format.** Any 24 octets are a header. A message of a header and any
    attributes, with any octets as padding, is read: its fields are those of the header, and each
    thing that an attribute carries comes from the last attribute of its kind and size. Attributes
    that carry nothing may come and go, and nothing else is read. -/
theorem decoder_meets_format :
    (∀ fixed : List UInt8, fixed.length = 24 → ∃ h : Header, fixed = h.bytes) ∧
    (∀ (h : Header) (as : List Attribute) (octets : List UInt8), Renders h as octets →
      ∃ m, AddressMessage.decode? octets = some m ∧ Reads h as m) ∧
    ∀ (h : Header) (total : UInt32) (as as' : List Attribute) (octets octets' : List UInt8),
      Renders h as octets → Renders { h with total } as' octets' →
      as.filter Attribute.Carries = as'.filter Attribute.Carries →
      AddressMessage.decode? octets = AddressMessage.decode? octets' := by
  refine ⟨?_, ?_, ?_⟩
  · intro fixed long
    obtain ⟨h, rest, rfl⟩ :=
      Header.exists_of_length (show fixedLength ≤ fixed.length from Nat.le_of_eq long.symm)
    have none : rest = [] := by
      rw [List.length_append, Header.length_bytes, fixedLength] at long
      exact List.eq_nil_of_length_eq_zero (by omega)
    exact ⟨h, by rw [none, List.append_nil]⟩
  · intro h as octets rendered
    exact ⟨_, rendered.decode?, reads_message h as⟩
  · intro h total as as' octets octets' rendered rendered' same
    rw [rendered.decode?, rendered'.decode?, ← message_filter_carries h as, same,
      message_filter_carries h as']
    rfl

/-- Padding that is not zero, an attribute of a kind that nobody knows and flags of a wrong size
    behind those of the right one disturb nothing. -/
theorem decoder_meets_format_among_others :
    let h : Header := ⟨68, 20, 0x505, 7, 0, 10, 64, 0x80, 0, 3⟩
    let as : List Attribute :=
      [⟨99, [1]⟩, ⟨8, [0, 2, 0, 0]⟩, ⟨1, List.replicate 16 0xfd⟩, ⟨8, [5, 5]⟩]
    let octets := h.bytes ++ ([5, 0, 99, 0, 1, 0xaa, 0xbb, 0xcc] ++ ([8, 0, 8, 0, 0, 2, 0, 0] ++
      (([20, 0, 1, 0] ++ List.replicate 16 0xfd) ++ ([6, 0, 8, 0, 5, 5, 0xdd, 0xee] ++ []))))
    Renders h as octets ∧ ∃ m, AddressMessage.decode? octets = some m ∧
      m.seq = 7 ∧ m.address.map Ipv6.octets = some (List.replicate 16 0xfd) ∧
      m.lifetimes = none ∧ m.extendedFlags.map bytes32 = some [0, 2, 0, 0] := by
  intro h as octets
  have rendered : Renders h as octets :=
    ⟨⟨_, .cons ⟨[0xaa, 0xbb, 0xcc], rfl, rfl⟩ (.cons ⟨[], rfl, rfl⟩ (.cons ⟨[], rfl, rfl⟩
      (.cons ⟨[0xdd, 0xee], rfl, rfl⟩ .nil))), rfl⟩, by decide, by decide⟩
  obtain ⟨m, read, fields⟩ := decoder_meets_format.2.1 h as octets rendered
  exact ⟨rendered, m, read, fields.seq, fields.address.trans (by decide),
    Option.map_eq_none_iff.1 (fields.lifetimes.trans (by decide)),
    fields.extendedFlags.trans (by decide)⟩

end AddressMessage

end MeshLink.Netlink
