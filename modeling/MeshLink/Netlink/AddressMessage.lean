import MeshLink.Netlink.AddressRequest
set_option autoImplicit false

/-! # Reading address messages

A reader of address messages that goes by the fixed layout and the attribute lengths alone. Only
octets that the message's own length covers are read as attributes; of several attributes of one
kind the last well-sized one counts, and attributes of other kinds are passed over. All 16 bits of a
kind count here. -/

namespace MeshLink.Netlink

namespace Attribute

/-- The address in an attribute of that kind. -/
def address? (a : Attribute) : Option Ipv6 :=
  if a.kind = AttributeKind.address then Ipv6.ofOctets? a.payload else none

/-- The preferred and the valid lifetime in an attribute of that kind. -/
def lifetimes? (a : Attribute) : Option (UInt32 × UInt32) :=
  if a.kind = AttributeKind.cacheInfo then do
    let preferred ← word32? a.payload
    let valid ← word32? (a.payload.drop 4)
    return (preferred, valid)
  else none

/-- The flags in an attribute of that kind. -/
def flags? (a : Attribute) : Option UInt32 :=
  if a.kind = AttributeKind.flags then word32? a.payload else none

/-- What the last attribute that carries such a thing carries. -/
def last? {α : Type} (read : Attribute → Option α) (attributes : List Attribute) : Option α :=
  attributes.reverse.findSome? read

end Attribute

/-- What an address message says, the attributes it may lack included. -/
structure AddressMessage where
  type : UInt16
  flags : UInt16
  seq : UInt32
  family : UInt8
  length : UInt8
  addressFlags : UInt8
  scope : UInt8
  ifIndex : UInt32
  address : Option Ipv6
  lifetimes : Option (UInt32 × UInt32)
  extendedFlags : Option UInt32
deriving DecidableEq

namespace AddressMessage

/-- The length of the header and of the fixed part behind it. -/
def fixedLength : Nat := 24

/-- Reads a message; fails only when it is shorter than its fixed part. -/
def decode? (bs : List UInt8) : Option AddressMessage := do
  let total ← word32? bs
  let type ← word16? (bs.drop 4)
  let flags ← word16? (bs.drop 6)
  let seq ← word32? (bs.drop 8)
  match bs.drop 16 with
  | family :: length :: addressFlags :: scope :: index =>
    let ifIndex ← word32? index
    let attributes := Attribute.scan ((bs.take total.toNat).drop fixedLength)
    return {
      type, flags, seq, family, length, addressFlags, scope, ifIndex
      address := Attribute.last? Attribute.address? attributes
      lifetimes := Attribute.last? Attribute.lifetimes? attributes
      extendedFlags := Attribute.last? Attribute.flags? attributes }
  | _ => none

end AddressMessage
end MeshLink.Netlink
