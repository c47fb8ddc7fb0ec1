import MeshLink.Ipv6.Net
set_option autoImplicit false

/-! # Snapshots

The mesh daemon reports complete lists of addresses and of on-mesh networks. Reports carry raw
octets, which are checked before use: an address has sixteen of them, a network at most sixteen,
and no length exceeds 128. -/

namespace MeshLink

/-- An address the mesh daemon wants on the interface, as reported. -/
structure AddressReport where
  address : List UInt8
  length : UInt8
  meshLocal : Bool
  activeOmr : Bool
  preferred : Bool
deriving DecidableEq

/-- A network that is reachable over the mesh, as reported. -/
structure PrefixReport where
  octets : List UInt8
  length : UInt8
deriving DecidableEq

/-- Why a report cannot be used. -/
inductive SnapshotError
  | addressLength (octets : Nat)
  | prefixLength (length : UInt8)
deriving DecidableEq

/-- The error in words. -/
def SnapshotError.message : SnapshotError → String
  | .addressLength n => "address must be 16 bytes, got " ++ toString n
  | .prefixLength n => "prefix length " ++ toString n.toNat ++ " exceeds 128"

/-- A report about an address that can be used. -/
structure AddressEntry where
  address : Ipv6
  length : UInt8
  meshLocal : Bool
  activeOmr : Bool
  preferred : Bool
deriving DecidableEq

/-- Whether the entry is about a group to join. -/
def AddressEntry.isMulticast (e : AddressEntry) : Bool :=
  e.address.isMulticast

/-- Checks the octets first and the length after them. -/
def AddressReport.validate (r : AddressReport) : Except SnapshotError AddressEntry :=
  match Ipv6.ofOctets? r.address with
  | none => .error (.addressLength r.address.length)
  | some address =>
    if Net.maxLength < r.length then .error (.prefixLength r.length)
    else .ok ⟨address, r.length, r.meshLocal, r.activeOmr, r.preferred⟩

/-- The network of a report; missing octets are zero. -/
def PrefixReport.net (r : PrefixReport) : Except SnapshotError Net :=
  if 16 < r.octets.length then .error (.addressLength r.octets.length)
  else if Net.maxLength < r.length then .error (.prefixLength r.length)
  else .ok (Net.of (Ipv6.padded r.octets) r.length)

/-- The usable entries of a snapshot of addresses, in order. -/
def AddressReport.entries (snapshot : List AddressReport) : List AddressEntry :=
  snapshot.filterMap (·.validate.toOption)

/-- The usable networks of a snapshot of networks, in order. -/
def PrefixReport.nets (snapshot : List PrefixReport) : List Net :=
  snapshot.filterMap (·.net.toOption)

end MeshLink
