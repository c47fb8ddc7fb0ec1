import MeshLink.Controller.Error
set_option autoImplicit false

/-! # Settings of an interface

The name of an interface and its MTU, checked once. A name has one to fifteen octets in UTF-8 and
no NUL; an IPv6 link carries at least 1280 octets. -/

namespace MeshLink

/-- The most octets that the name of an interface can have. -/
def maxInterfaceName : Nat := 15

/-- Whether an interface can have this name. -/
def isInterfaceName (name : String) : Bool :=
  0 < name.utf8ByteSize && name.utf8ByteSize ≤ maxInterfaceName && !name.toList.contains '\x00'

/-- Refuses what cannot be the name of an interface. -/
def checkInterfaceName (name : String) : Except ControllerError Unit :=
  if isInterfaceName name then .ok () else .error (.invalidInterfaceName name)

/-- The settings of an interface that a controller looks after. -/
structure Config where
  interface : String
  mtu : UInt32
deriving DecidableEq

namespace Config

/-- The MTU unless another one is asked for. -/
def defaultMtu : UInt32 := 1280

/-- The name unless another one is asked for. -/
def defaultInterface : String := "thread-wpan"

/-- The least MTU that an IPv6 link may have. -/
def minMtu : UInt32 := 1280

/-- The settings of a controller that nothing was said about. -/
def default : Config :=
  ⟨defaultInterface, defaultMtu⟩

/-- Checks the name first and the MTU after it. -/
def of (interface : String) (mtu : UInt32) : Except ControllerError Config :=
  if !isInterfaceName interface then .error (.invalidInterfaceName interface)
  else if mtu < minMtu then .error (.invalidMtu mtu)
  else .ok ⟨interface, mtu⟩

end Config
end MeshLink
