import MeshLink.Ipv6.Basic
import MeshLink.Kernel.Error
set_option autoImplicit false

/-! # Hosts

A host is what a controller talks to: a clock, an interface table, a socket for address requests, a
socket for group memberships and the link switch. Its state is a type of its own, every call may
change it, and nothing is assumed about the answers; a kernel in memory, a kernel with scripted
failures and a simulated machine are hosts alike. -/

namespace MeshLink

/-- What a controller holds open. -/
inductive Handle
  | device
  /-- The socket for address requests. -/
  | routes
  /-- The socket for group memberships. -/
  | groups
deriving DecidableEq

/-- How a call ends that gives nothing back. -/
abbrev CallResult := Except CallError Unit

/-- How a request to the kernel ends. -/
abbrev KernelResult := Except KernelError Unit

/-- A type of states that answers the calls of a controller. -/
class Host (σ : Type) where
  now : StateM σ Int64
  interfaceIndex (name : String) : StateM σ (Except CallError UInt32)
  openRoutes : StateM σ CallResult
  openGroups (ifIndex : UInt32) : StateM σ CallResult
  /-- Sends an address request and learns its outcome. -/
  send (message : List UInt8) (seq : UInt32) : StateM σ KernelResult
  joinGroup (group : Ipv6) (ifIndex : UInt32) : StateM σ CallResult
  leaveGroup (group : Ipv6) (ifIndex : UInt32) : StateM σ CallResult
  setLink (name : String) (up : Bool) : StateM σ CallResult
  close (handle : Handle) : StateM σ Unit

end MeshLink
