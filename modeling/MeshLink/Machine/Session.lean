import MeshLink.Controller.Operation
import MeshLink.Machine.Decoder
import MeshLink.Machine.Sockets
set_option autoImplicit false

/-! # A controller on a machine

One controller with the device and the sockets of a simulated machine, whose kernel can be changed
from outside between the steps. -/

namespace MeshLink

/-- A change of a machine from outside; what is left out stays as it is. -/
structure MachineChange where
  failures : Option (List (SystemCall × Errno))
  boot : Option ClockReading
  monotonic : Option ClockReading
  writes : Option (List (Option WriteFault))
  replies : List Datagram
  clearAddresses : Bool

/-- The machine after the change; replies come behind those that are queued. -/
def MachineChange.apply (c : MachineChange) (m : Machine) : Machine :=
  { m with
    failures := c.failures.getD m.failures
    boot := c.boot.getD m.boot
    monotonic := c.monotonic.getD m.monotonic
    writes := c.writes.getD m.writes
    replies := m.replies ++ c.replies
    addresses := if c.clearAddresses then [] else m.addresses }

/-- A controller with the machine it runs on. -/
structure MachineSession where
  controller : Controller
  shared : Shared Machine

/-- What can happen to a controller on a machine. -/
inductive MachineStep
  | start
  | operate (operation : Operation)
  | change (change : MachineChange)

namespace MachineSession

/-- A controller that holds nothing yet. -/
def new (config : Config) (m : Machine) : MachineSession :=
  ⟨.new config, 0, m⟩

/-- Has the controller carry out an operation. -/
def operate (s : MachineSession) (operation : Operation) : ControllerResult × MachineSession :=
  let ((result, controller), shared) := (s.controller.apply operation).run s.shared
  (result, ⟨controller, shared⟩)

/-- One step; to start, the controller gets a device of its own. -/
def step (s : MachineSession) : MachineStep → ControllerResult × MachineSession
  | .start =>
    let config := s.controller.config
    let (device, shared) :=
      (LinkM.onHost (Machine.createDevice config.interface config.mtu)).run s.shared
    let s := { s with shared := shared }
    match device with
    | .error e => (.error e, s)
    | .ok device => s.operate (.start device)
  | .operate operation => s.operate operation
  | .change change => (.ok (), { s with shared.host := change.apply s.shared.host })

/-- Lets go of the controller; what it still holds is closed. -/
def drop (s : MachineSession) : MachineSession :=
  let (controller, shared) := s.controller.release.run s.shared
  ⟨controller, shared⟩

end MachineSession
end MeshLink
