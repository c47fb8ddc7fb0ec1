set_option autoImplicit false

/-! # IPv6 addresses

An address is its sixteen octets in network order. Everything else in the library looks at an
address through two views: the octet list, which is what travels on the wire, and the bits
numbered from the most significant one, through which networks are described. -/

namespace MeshLink

/-- An IPv6 address. -/
structure Ipv6 where
  octets : List UInt8
  length_octets : octets.length = 16
deriving DecidableEq

namespace Ipv6

/-- The address with these octets, if there are sixteen of them. -/
def ofOctets? (octets : List UInt8) : Option Ipv6 :=
  if h : octets.length = 16 then some ⟨octets, h⟩ else none

@[simp] theorem ofOctets?_octets (a : Ipv6) : ofOctets? a.octets = some a := by
  simp [ofOctets?, a.length_octets]

theorem ofOctets?_eq_none_iff {octets : List UInt8} :
    ofOctets? octets = none ↔ octets.length ≠ 16 := by
  simp [ofOctets?]

theorem ext_octets {a b : Ipv6} (h : a.octets = b.octets) : a = b := by
  cases a; cases b; simp_all

/-- The address whose octets start with the given ones; missing octets are zero and surplus
    ones are dropped. -/
def padded (octets : List UInt8) : Ipv6 where
  octets := (octets ++ List.replicate 16 0).take 16
  length_octets := by simp

theorem octets_padded {octets : List UInt8} (h : octets.length ≤ 16) :
    (padded octets).octets = octets ++ List.replicate (16 - octets.length) 0 := by
  show (octets ++ List.replicate 16 0).take 16 = _
  rw [List.take_append, List.take_of_length_le h, List.take_replicate]
  congr 2; omega

@[simp] theorem padded_octets (a : Ipv6) : padded a.octets = a :=
  ext_octets (by simp [octets_padded, a.length_octets])

/-- The octet at a place, counted from the most significant one. -/
def octet (a : Ipv6) (i : Nat) : UInt8 :=
  a.octets.getD i 0

/-- Bit `i` counted from the most significant bit of the address. -/
def bit (a : Ipv6) (i : Nat) : Bool :=
  (a.octet (i / 8)).toNat.testBit (7 - i % 8)

/-- The eight 16-bit groups of the address, most significant first. -/
def groups (a : Ipv6) : List UInt16 :=
  go a.octets
where
  go : List UInt8 → List UInt16
    | hi :: lo :: rest => (hi.toUInt16 <<< 8 ||| lo.toUInt16) :: go rest
    | _ => []

/-- The octets of a list of 16-bit groups, the high octet of each group first. -/
def octetsOfGroups (gs : List UInt16) : List UInt8 :=
  gs.flatMap fun (g : UInt16) => [(g >>> 8).toUInt8, g.toUInt8]

/-! ## Kinds of address -/

/-- The address `::1`. -/
def loopback : Ipv6 :=
  ⟨List.replicate 15 0 ++ [1], rfl⟩

/-- Whether the address is that of the host itself. -/
def isLoopback (a : Ipv6) : Bool :=
  a == loopback

/-- Whether the address is that of a group, in `ff00::/8`. -/
def isMulticast (a : Ipv6) : Bool :=
  a.octet 0 == 0xff

/-- Whether the address holds on one link only, in `fe80::/10`. -/
def isLinkLocal (a : Ipv6) : Bool :=
  a.octet 0 == 0xfe && a.octet 1 &&& 0xc0 == 0x80

/-! ## Order -/

/-- Lexicographic order on octets, first difference decides. -/
def ble (a b : Ipv6) : Bool :=
  go a.octets b.octets
where
  go : List UInt8 → List UInt8 → Bool
    | [], _ => true
    | _ :: _, [] => false
    | x :: xs, y :: ys => x < y || (x == y && go xs ys)

end Ipv6
end MeshLink
