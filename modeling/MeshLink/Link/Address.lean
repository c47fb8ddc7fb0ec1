import MeshLink.Ipv6.Net
import MeshLink.Lifetime
set_option autoImplicit false

/-! # Addresses on a link

An address on a link carries what the kernel is told about it: its scope and flags follow from the
address and from its two lifetimes, so `LinkAddress.of` is the one way to build it. -/

namespace MeshLink

/-- How far an address reaches. -/
inductive Scope
  | universe | site | link | host
deriving DecidableEq

namespace Scope

/-- The scope of a unicast address: loopback stays on the host, `fe80::/10` on the link. -/
def ofAddress (a : Ipv6) : Scope :=
  if a.isLoopback then .host
  else if a.isLinkLocal then .link
  else .universe

/-- The number of the scope on the wire. -/
def code : Scope → UInt8
  | .universe => 0
  | .site => 200
  | .link => 253
  | .host => 254

/-- The scope in words. -/
def name : Scope → String
  | .universe => "universe"
  | .site => "site"
  | .link => "link"
  | .host => "host"

end Scope

/-- An address with its length, flags, scope and lifetimes; two of them are the same entry only
    when all of these agree. -/
structure LinkAddress where
  address : Ipv6
  length : UInt8
  flags : UInt32
  scope : Scope
  deprecation : Lifetime
  expiration : Lifetime
deriving DecidableEq

namespace LinkAddress

/-- The flag of an address that is not to be used for new connections. -/
def deprecatedFlag : UInt32 := 0x20

/-- The flag of an address that the kernel keeps for ever. -/
def permanentFlag : UInt32 := 0x80

/-- Deprecated once its deprecation is finite; permanent when neither lifetime is. -/
def flagsFor (deprecation expiration : Lifetime) : UInt32 :=
  (if deprecation.isFinite then deprecatedFlag else 0) |||
    (if !deprecation.isFinite && !expiration.isFinite then permanentFlag else 0)

/-- The entry of an address whose flags and scope follow from the rest. -/
def of (address : Ipv6) (length : UInt8) (deprecation expiration : Lifetime) : LinkAddress where
  address := address
  length := length
  flags := flagsFor deprecation expiration
  scope := Scope.ofAddress address
  deprecation := deprecation
  expiration := expiration

/-- Whether the address has an end to being preferred. -/
def isDeprecated (a : LinkAddress) : Bool :=
  a.deprecation.isFinite

/-- The network that the address lies in. -/
def network (a : LinkAddress) : Net :=
  Net.of a.address a.length

/-- The address and its length. -/
def text (a : LinkAddress) : String :=
  a.address.text ++ "/" ++ toString a.length.toNat

/-- Whether two entries are about the same address and length. -/
def sameKey (a b : LinkAddress) : Bool :=
  a.address == b.address && a.length == b.length

/-- Puts an entry in the place of the first one about the same address and length, or at the
    end if there is none. -/
def upsert (a : LinkAddress) : List LinkAddress → List LinkAddress
  | [] => [a]
  | b :: bs => if b.sameKey a then a :: bs else b :: a.upsert bs

end LinkAddress
end MeshLink
