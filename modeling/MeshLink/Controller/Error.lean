import MeshLink.Kernel.Errno
import MeshLink.Lifecycle
set_option autoImplicit false

/-! # Errors of the controller

Only bad settings, a failed start, a failed change of the link state and misuse are errors;
whatever a snapshot meets is dealt with on the spot. -/

namespace MeshLink

/-- Why a controller could not be configured, started or switched. -/
inductive ControllerError
  | invalidInterfaceName (name : String)
  | invalidMtu (mtu : UInt32)
  | interfaceIndex (name : String) (cause : CallError)
  | routeSocket (cause : CallError)
  | multicastSocket (name : String) (cause : CallError)
  | device (name : String) (cause : CallError)
  | linkState (name : String) (up : Bool) (cause : CallError)
  | invalidState (action : GuardedAction) (state : Lifecycle)
deriving DecidableEq

namespace ControllerError

/-- The error in words, with its cause. -/
def message : ControllerError → String
  | .invalidInterfaceName name => "invalid interface name '" ++ name ++ "' (1-15 bytes, no NUL)"
  | .invalidMtu mtu => "MTU " ++ toString mtu.toNat ++ " is below the IPv6 minimum of 1280"
  | .interfaceIndex name cause =>
    "failed to resolve interface index for '" ++ name ++ "': " ++ cause.message
  | .routeSocket cause => "failed to open netlink route socket: " ++ cause.message
  | .multicastSocket name cause =>
    "failed to open multicast socket on '" ++ name ++ "': " ++ cause.message
  | .device name cause => "TUN device '" ++ name ++ "': " ++ cause.message
  | .linkState name up cause =>
    "failed to set '" ++ name ++ "' " ++ linkDirection up ++ ": " ++ cause.message
  | .invalidState action state => "cannot " ++ action.text ++ " while " ++ state.name

end ControllerError
end MeshLink
