import MeshLink.Kernel.Host
set_option autoImplicit false

/-! # Recorded hosts

Wraps a host so that every call that asks the kernel for something is written down together with
its outcome, in order, failed calls included. The wrapped host answers exactly as before. -/

namespace MeshLink

/-- A call that asks the kernel for something, with its outcome. -/
inductive Call
  | lookup (name : String) (outcome : Except CallError UInt32)
  | openRoutes (outcome : CallResult)
  | openGroups (ifIndex : UInt32) (outcome : CallResult)
  | send (message : List UInt8) (seq : UInt32) (outcome : KernelResult)
  | join (group : Ipv6) (ifIndex : UInt32) (outcome : CallResult)
  | leave (group : Ipv6) (ifIndex : UInt32) (outcome : CallResult)
  | setLink (name : String) (up : Bool) (outcome : CallResult)
  | close (handle : Handle)

/-- A host together with the calls made to it, the earliest first. -/
structure Recorded (σ : Type) where
  host : σ
  calls : List Call

namespace Recorded

variable {σ : Type}

/-- Makes a call and writes it down. -/
def record {α : Type} (action : StateM σ α) (note : α → Call) :
    StateM (Recorded σ) α := fun r =>
  let (a, host) := action r.host
  (a, ⟨host, r.calls ++ [note a]⟩)

/-- Makes a call that leaves no trace. -/
def silently {α : Type} (action : StateM σ α) : StateM (Recorded σ) α := fun r =>
  let (a, host) := action r.host
  (a, ⟨host, r.calls⟩)

instance [Host σ] : Host (Recorded σ) where
  now := silently Host.now
  interfaceIndex name := record (Host.interfaceIndex name) (.lookup name)
  openRoutes := record Host.openRoutes .openRoutes
  openGroups ifIndex := record (Host.openGroups ifIndex) (.openGroups ifIndex)
  send message seq := record (Host.send message seq) (.send message seq)
  joinGroup group ifIndex := record (Host.joinGroup group ifIndex) (.join group ifIndex)
  leaveGroup group ifIndex := record (Host.leaveGroup group ifIndex) (.leave group ifIndex)
  setLink name up := record (Host.setLink name up) (.setLink name up)
  close handle := record (Host.close handle) fun _ => .close handle

end Recorded
end MeshLink
