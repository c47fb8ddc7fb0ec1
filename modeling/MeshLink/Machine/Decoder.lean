import MeshLink.Netlink.Reply
set_option autoImplicit false

/-! # The decoder of a simulated machine

A simulated machine queues control messages and messages about addresses and no other messages of
the kernel, so its decoder reads these two kinds. Whatever else a script puts into the queue stands
for a datagram that cannot be read. -/

namespace MeshLink.Machine

open Netlink

/-- Whether an attribute of an address message has a payload that fits its kind: an address is of
    either family, a broadcast address of IPv4, an anycast or multicast address of IPv6, and a label
    is text. An attribute of any other kind is not looked into. -/
def fitsKind (a : Attribute) : Bool :=
  let kind := a.plainKind
  let size := a.payload.length
  if kind = AttributeKind.address ∨ kind = AttributeKind.localAddress then size == 4 || size == 16
  else if kind = AttributeKind.label then a.payload.toByteArray.validateUTF8
  else if kind = AttributeKind.broadcast ∨ kind = AttributeKind.flags then size == 4
  else if kind = AttributeKind.anycast ∨ kind = AttributeKind.multicast then size == 16
  else if kind = AttributeKind.cacheInfo then 16 ≤ size
  else true

/-- Whether a payload is that of an address message: the fixed part, then attributes to the end. -/
def isAddressPayload (payload : List UInt8) : Bool :=
  let (attributes, rest) := Attribute.walk (payload.drop 8)
  8 ≤ payload.length && rest.isEmpty && attributes.all fitsKind

/-- Whether a payload is one of a type of message that the machine queues. -/
def isQueued (type : UInt16) (payload : List UInt8) : Bool :=
  if type = MessageType.noop ∨ type = MessageType.overrun then true
  else if type = MessageType.error ∨ type = MessageType.done then 4 ≤ payload.length
  else if type = MessageType.newAddress ∨ type = MessageType.delAddress ∨
      type = MessageType.getAddress then isAddressPayload payload
  else false

/-- The payload of a message of a type. -/
def payloadOf (type : UInt16) (payload : List UInt8) : Payload :=
  if type = MessageType.error then
    .error ((word32? payload).bind fun code => ErrorCode.of? code.toInt32)
  else .other

/-- Reads a datagram; what follows the message's own length is ignored. -/
def reply? (bs : List UInt8) : Option Reply := do
  let length ← word32? bs
  let type ← word16? (bs.drop 4)
  let seq ← word32? (bs.drop 8)
  if bs.length < length.toNat ∨ length.toNat < headerLength then none
  let payload := (bs.take length.toNat).drop headerLength
  if isQueued type payload then some ⟨seq, payloadOf type payload⟩ else none

/-- The octets of a datagram that could be read. -/
theorem exists_of_reply? {content : List UInt8} {r : Reply} (read : reply? content = some r) :
    ∃ (type : UInt16) (payload rest : List UInt8), word16? (content.drop 4) = some type ∧
      word32? (content.drop 8) = some r.seq ∧ content.drop headerLength = payload ++ rest ∧
      isQueued type payload = true ∧ r.payload = payloadOf type payload := by
  simp only [reply?, Option.bind_eq_bind, Option.bind_eq_some_iff] at read
  obtain ⟨length, -, type, hasType, seq, hasSeq, read⟩ := read
  split at read
  · cases read
  · next fits =>
      split at read
      · next queued =>
          obtain rfl := Option.some.inj read
          have within : headerLength ≤ (content.take length.toNat).length := by
            rw [List.length_take]; omega
          refine ⟨type, _, content.drop length.toNat, hasType, hasSeq, ?_, queued, rfl⟩
          rw [← List.drop_append_of_le_length within, List.take_append_drop]
      · cases read

instance : Decoder where
  decode? := reply?

/-- The machine's decoder reads what it does read as every decoder is documented to. -/
theorem documented : Decoder.Documented where
  seq read := by
    obtain ⟨type, payload, rest, -, hasSeq, -⟩ := exists_of_reply? read
    exact hasSeq
  error {content r} read isError := by
    obtain ⟨type, payload, rest, hasType, -, split, queued, carries⟩ := exists_of_reply? read
    obtain rfl : type = MessageType.error := Option.some.inj (hasType.symm.trans isError)
    obtain ⟨w, more, rfl⟩ := exists_bytes32 (show 4 ≤ payload.length from of_decide_eq_true queued)
    refine ⟨w.toInt32, ?_, ?_⟩
    · rw [split, List.append_assoc, word32?_bytes32_append, UInt32.toUInt32_toInt32]
    · rw [carries, payloadOf, if_pos rfl, word32?_bytes32_append, Option.bind_some]
  other {content r} read other := by
    obtain ⟨type, payload, rest, hasType, -, -, -, carries⟩ := exists_of_reply? read
    rw [carries, payloadOf, if_neg]
    rintro rfl
    exact other hasType

end MeshLink.Machine
