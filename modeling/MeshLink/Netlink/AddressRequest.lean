import MeshLink.Link.Address
import MeshLink.Netlink.Message
set_option autoImplicit false

/-! # Requests about addresses

The two requests that the library sends: one that adds an address or replaces what is known about
it, and one that removes it. Flags travel twice, the low eight bits in the fixed header and all of
them in an attribute; lifetimes travel in an attribute, the preferred one first. -/

namespace MeshLink.Netlink

/-- The number of the address family. -/
def familyIpv6 : UInt8 := 10

/-! ## The kinds of attribute of an address message -/

namespace AttributeKind

/-- The kernel's `IFA_ADDRESS`. -/
def address : UInt16 := 1

/-- The kernel's `IFA_LOCAL`. -/
def localAddress : UInt16 := 2

/-- The kernel's `IFA_LABEL`. -/
def label : UInt16 := 3

/-- The kernel's `IFA_BROADCAST`. -/
def broadcast : UInt16 := 4

/-- The kernel's `IFA_ANYCAST`. -/
def anycast : UInt16 := 5

/-- The kernel's `IFA_CACHEINFO`. -/
def cacheInfo : UInt16 := 6

/-- The kernel's `IFA_MULTICAST`. -/
def multicast : UInt16 := 7

/-- The kernel's `IFA_FLAGS`. -/
def flags : UInt16 := 8

end AttributeKind

/-! ## Requests -/

/-- What a request to add an address says. -/
structure AddressRequest where
  address : Ipv6
  length : UInt8
  flags : UInt32
  scope : UInt8
  ifIndex : UInt32
  validLifetime : UInt32
  preferredLifetime : UInt32
deriving DecidableEq

namespace AddressRequest

/-- The request for an entry: the preferred lifetime runs until its deprecation and the valid one
    until its expiration. -/
def of (a : LinkAddress) (ifIndex : UInt32) (now : Int64) : AddressRequest where
  address := a.address
  length := a.length
  flags := a.flags
  scope := a.scope.code
  ifIndex := ifIndex
  validLifetime := a.expiration.remaining now
  preferredLifetime := a.deprecation.remaining now

end AddressRequest

/-- The fixed part of an address message. -/
def addressHeader (length flags scope : UInt8) (ifIndex : UInt32) : List UInt8 :=
  [familyIpv6, length, flags, scope] ++ bytes32 ifIndex

/-- The attribute that carries the address. -/
def addressAttribute (a : Ipv6) : Attribute :=
  ⟨AttributeKind.address, a.octets⟩

/-- The attribute that carries the lifetimes; the two times of creation and change that follow
    them are the kernel's to fill. -/
def lifetimeAttribute (preferred valid : UInt32) : Attribute :=
  ⟨AttributeKind.cacheInfo, bytes32 preferred ++ bytes32 valid ++ bytes32 0 ++ bytes32 0⟩

/-- The attribute that carries all the flags. -/
def flagsAttribute (flags : UInt32) : Attribute :=
  ⟨AttributeKind.flags, bytes32 flags⟩

/-- The flags of a request to add or replace an address. -/
def addFlags : UInt16 :=
  MessageFlag.request ||| MessageFlag.acknowledge ||| MessageFlag.create ||| MessageFlag.replace

/-- The flags of a request to remove an address. -/
def removeFlags : UInt16 :=
  MessageFlag.request ||| MessageFlag.acknowledge

/-- The octets of a request to add an address. -/
def newAddress (seq : UInt32) (r : AddressRequest) : List UInt8 :=
  message MessageType.newAddress addFlags seq
    (addressHeader r.length r.flags.toUInt8 r.scope r.ifIndex ++
      (addressAttribute r.address).bytes ++
      (lifetimeAttribute r.preferredLifetime r.validLifetime).bytes ++
      (flagsAttribute r.flags).bytes)

/-- The octets of a request to remove an address. -/
def delAddress (seq : UInt32) (a : Ipv6) (length : UInt8) (ifIndex : UInt32) : List UInt8 :=
  message MessageType.delAddress removeFlags seq
    (addressHeader length 0 0 ifIndex ++ (addressAttribute a).bytes)

end MeshLink.Netlink
