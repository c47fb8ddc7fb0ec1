import MeshLink.Link.Address
import MeshLink.Snapshot
set_option autoImplicit false

/-! # What a snapshot asks for

The usable entries of a snapshot split into groups to join and addresses to carry. Of several
entries about one address and length the last one counts, in the place of the first. Mesh-local
addresses share their scope with off-mesh routable (OMR) ones, so while an OMR address is active a
mesh-local one is deprecated: only one of them is preferred. -/

namespace MeshLink.Desired

/-- Whether an entry is about an active OMR address. -/
def hasActiveOmr (entries : List AddressEntry) : Bool :=
  entries.any (·.activeOmr)

/-- An entry is preferred if it says so and no active OMR address stands before a mesh-local one. -/
def isPreferred (activeOmr : Bool) (e : AddressEntry) : Bool :=
  e.preferred && !(e.meshLocal && activeOmr)

/-- The address of an entry; one that is not preferred is deprecated as of now. -/
def linkAddress (activeOmr : Bool) (now : Int64) (e : AddressEntry) : LinkAddress :=
  .of e.address e.length (if isPreferred activeOmr e then .permanent else .at now) .permanent

/-- The addresses of the entries that are no groups: the last one of each address and length, in
    the place of the first. -/
def addresses (entries : List AddressEntry) (now : Int64) : List LinkAddress :=
  (entries.filter (!·.isMulticast)).foldl
    (fun desired e => (linkAddress (hasActiveOmr entries) now e).upsert desired) []

/-- The groups of the entries, in order and with repetitions. -/
def groups (entries : List AddressEntry) : List Ipv6 :=
  (entries.filter (·.isMulticast)).map (·.address)

end MeshLink.Desired
