import MeshLink.Ipv6.Net
set_option autoImplicit false

/-! # Routes

A unicast route to a network through one interface. -/

namespace MeshLink

/-- A route to a network. -/
structure Route where
  destination : Net
  interface : String
  mtu : UInt32
deriving DecidableEq

namespace Route

/-- The route as it is written. -/
def text (r : Route) : String :=
  r.destination.text ++ " dev " ++ r.interface ++ " mtu " ++ toString r.mtu.toNat

end Route
end MeshLink
