import MeshLink.Controller.Operation
import MeshLink.Kernel.Memory
import MeshLink.Kernel.Recorded
import MeshLink.Kernel.Scripted
set_option autoImplicit false

/-! # Sessions

Several controllers that share one sequence counter, one clock and one kernel in memory. A step is
either an operation of one of the controllers or a change of what is around them: time passes, or
the kernel is set up to answer differently. -/

namespace MeshLink

/-- The host of a session: a kernel in memory whose failures can be scripted and whose calls are
    written down. -/
abbrev SessionHost := Recorded (Scripted MemoryKernel)

/-- A change of the kernel from outside; what is left out stays as it is. -/
structure KernelChange where
  failLink : Option Bool
  missingInterface : Option Bool
  failRoutes : Option Bool
  failGroups : Option Bool
  clearAddresses : Bool
  clearGroups : Bool
  addGroups : List Ipv6
  sends : Option (List (Option SendFault))
  groupCalls : Option (List (Option Errno))
deriving DecidableEq

namespace KernelChange

/-- The change as far as it is one of the kernel. -/
def onKernel (c : KernelChange) (k : MemoryKernel) : MemoryKernel :=
  { k with
    failLink := c.failLink.getD k.failLink
    missingInterface := c.missingInterface.getD k.missingInterface
    failRoutes := c.failRoutes.getD k.failRoutes
    failGroups := c.failGroups.getD k.failGroups
    addresses := if c.clearAddresses then [] else k.addresses
    groups := c.addGroups.foldl (fun groups g => MemoryKernel.insertNew g groups)
      (if c.clearGroups then [] else k.groups) }

/-- The whole change, the scripts of failures included. -/
def apply (c : KernelChange) (s : Scripted MemoryKernel) : Scripted MemoryKernel where
  host := c.onKernel s.host
  sends := c.sends.getD s.sends
  groupCalls := c.groupCalls.getD s.groupCalls

end KernelChange

/-- A controller of a session, with the index that the kernel has for its interface. -/
structure Member where
  controller : Controller
  ifIndex : UInt32
deriving DecidableEq

/-- Controllers side by side, with what they share. -/
structure Session where
  shared : Shared SessionHost
  members : List Member

/-- What can happen in a session. -/
inductive SessionStep
  /-- Adopts a device under a name, by default the controller's own, and starts the controller. -/
  | start (target : Nat) (device : Option String)
  | operate (target : Nat) (operation : Operation)
  /-- Lets time pass; the clock wraps around. -/
  | advance (ms : Int64)
  | change (change : KernelChange)
deriving DecidableEq

namespace Session

/-- Controllers that hold nothing yet, on an idle kernel. -/
def new (configs : List (Config × UInt32)) (time : Int64) : Session where
  shared := ⟨0, ⟨.of (.idle time), []⟩⟩
  members := configs.map fun (config, ifIndex) => ⟨.new config, ifIndex⟩

/-- The kernel below the script and the log. -/
def kernel (s : Session) : MemoryKernel :=
  s.shared.host.host.host

/-- Changes the host without a trace in the log. -/
def changeHost (s : Session) (f : Scripted MemoryKernel → Scripted MemoryKernel) : Session :=
  { s with shared.host.host := f s.shared.host.host }

/-- Has a controller carry out an operation, its interface being the one the kernel knows. -/
def operate (s : Session) (target : Nat) (operation : Operation) : ControllerResult × Session :=
  match s.members[target]? with
  | none => (.ok (), s)
  | some m =>
    let s := s.changeHost fun h => { h with host.ifIndex := m.ifIndex }
    let ((result, controller), shared) := (m.controller.apply operation).run s.shared
    (result, ⟨shared, s.members.set target { m with controller := controller }⟩)

/-- The name under which a controller's device is adopted. -/
def deviceName (s : Session) (target : Nat) (device : Option String) : String :=
  device.getD ((s.members[target]?.map (·.controller.config.interface)).getD "")

/-- One step; a device of an impossible name is refused before the controller is asked. -/
def step (s : Session) : SessionStep → ControllerResult × Session
  | .start target device =>
    match Device.adopt (s.deviceName target device) with
    | .error e => (.error e, s)
    | .ok device => s.operate target (.start device)
  | .operate target operation => s.operate target operation
  | .advance ms =>
    (.ok (), s.changeHost fun h => { h with host.time := h.host.time + ms })
  | .change change => (.ok (), s.changeHost change.apply)

/-- Takes the calls made since they were last taken. -/
def takeCalls (s : Session) : List Call × Session :=
  (s.shared.host.calls, { s with shared.host.calls := [] })

end Session
end MeshLink
