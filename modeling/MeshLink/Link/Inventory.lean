import MeshLink.Link.Address
import MeshLink.Link.Route
set_option autoImplicit false

/-! # What an interface carries

The addresses and routes that have been requested for one interface. Addresses are held once per
address and length, routes once per value. Every operation also tells whether it changed
anything. -/

namespace MeshLink

/-- The addresses and routes of one interface, in the order in which they came. -/
structure Inventory where
  interface : String
  mtu : UInt32
  addresses : List LinkAddress
  routes : List Route
deriving DecidableEq

namespace Inventory

/-- An interface that carries nothing. -/
def empty (interface : String) (mtu : UInt32) : Inventory :=
  ⟨interface, mtu, [], []⟩

/-- An entry about the same address and length is replaced where it stands; otherwise the new one
    goes to the end. -/
def addAddress (inv : Inventory) (a : LinkAddress) : Inventory × Bool :=
  ({ inv with addresses := a.upsert inv.addresses },
    inv.addresses.find? (·.sameKey a) != some a)

/-- Drops the entries equal to the given one; one that differs in any part stays. -/
def removeAddress (inv : Inventory) (a : LinkAddress) : Inventory × Bool :=
  ({ inv with addresses := inv.addresses.filter (· ≠ a) }, inv.addresses.contains a)

/-- Adds a route at the end unless it is there. -/
def addRoute (inv : Inventory) (r : Route) : Inventory × Bool :=
  if inv.routes.contains r then (inv, false)
  else ({ inv with routes := inv.routes ++ [r] }, true)

/-- Drops a route. -/
def removeRoute (inv : Inventory) (r : Route) : Inventory × Bool :=
  ({ inv with routes := inv.routes.filter (· ≠ r) }, inv.routes.contains r)

end Inventory
end MeshLink
