import MeshLink.Kernel.Host
import MeshLink.Machine.Acknowledgement
import MeshLink.Machine.Clock
set_option autoImplicit false

/-! # A simulated machine

A machine with several interfaces, addresses and group memberships, whose system calls can be told
to fail. What it does that can be seen from outside is written down as events. -/

namespace MeshLink

/-- An interface of the machine. -/
structure NetInterface where
  name : String
  index : UInt32
  flags : UInt16
  mtu : Int32
deriving DecidableEq

/-- The system calls that can be told to fail. -/
inductive SystemCall
  | openTunnel | attachTunnel | controlSocket | getFlags | setFlags | setMtu | lookup
  | routeSocket | bind | socketName | connect | groupSocket | multicastInterface | join | leave
deriving DecidableEq

/-- What can be seen from outside. -/
inductive MachineEvent
  | attach (name : String) (mode : UInt16)
  | setFlags (name : String) (flags : UInt16)
  | setMtu (name : String) (mtu : Int32)
  | send (message : List UInt8)
  | multicastInterface (index : Int32)
  | join (group : Ipv6) (ifIndex : UInt32)
  | leave (group : Ipv6) (ifIndex : UInt32)
  | close (handle : Handle)
deriving DecidableEq

/-- The scripted outcome of a write to the route socket; the kernel does not see the request. -/
inductive WriteFault
  | errno (e : Errno)
  | written (count : Nat)
deriving DecidableEq

/-- An address that the kernel has on an interface. -/
structure AssignedAddress where
  ifIndex : UInt32
  address : Ipv6
  length : UInt8
deriving DecidableEq

/-- A group that was joined on an interface. -/
structure JoinedGroup where
  ifIndex : UInt32
  group : Ipv6
deriving DecidableEq

/-- The state of the machine, with the failures and the replies that it is told to give. -/
structure Machine where
  interfaces : List NetInterface
  addresses : List AssignedAddress
  groups : List JoinedGroup
  /-- The calls that fail, with their error numbers. -/
  failures : List (SystemCall × Errno)
  boot : ClockReading
  monotonic : ClockReading
  /-- The outcomes of the next writes; where there is none the write goes through. -/
  writes : List (Option WriteFault)
  replies : List Datagram
  /-- Whether the kernel acts on requests and acknowledges them. -/
  responsive : Bool
  /-- The events so far, the latest first. -/
  events : List MachineEvent

namespace Machine

/-- A machine with these interfaces, on which nothing fails. -/
def idle (interfaces : List NetInterface) : Machine where
  interfaces := interfaces
  addresses := []
  groups := []
  failures := []
  boot := .ok (1000, 0)
  monotonic := .ok (1000, 0)
  writes := []
  replies := []
  responsive := true
  events := []

/-- Writes an event down. -/
def emit (e : MachineEvent) : StateM Machine Unit :=
  modify fun m => { m with events := e :: m.events }

/-- Takes the events since they were last taken, in order. -/
def takeEvents (m : Machine) : List MachineEvent × Machine :=
  (m.events.reverse, { m with events := [] })

/-- Closes a handle. -/
def close (handle : Handle) : StateM Machine Unit :=
  emit (.close handle)

/-- The interface of a name. -/
def find? (m : Machine) (name : String) : Option NetInterface :=
  m.interfaces.find? (·.name == name)

/-- Replaces the interface of the same name. -/
def update (i : NetInterface) : StateM Machine Unit :=
  modify fun m =>
    { m with interfaces := m.interfaces.map fun j => if j.name == i.name then i else j }

/-- A sequence of system calls that ends with the first that fails. -/
abbrev SystemM := ExceptT CallError (StateM Machine)

/-- A call that fails with this error number. -/
def refuse {α : Type} (e : Errno) : SystemM α :=
  throw (.os e)

/-- A system call, which fails if it is told to. -/
def invoke (call : SystemCall) : SystemM Unit := do
  match (← get).failures.lookup call with
  | some e => refuse e
  | none => pure ()

/-- The interface of a name, which has to exist. -/
def require (name : String) : SystemM NetInterface := do
  match (← get).find? name with
  | some i => pure i
  | none => refuse Errno.noDevice

/-! ## Order of what a machine holds -/

/-- By the index of the interface, then by address and length. -/
def addressLe (a b : AssignedAddress) : Bool :=
  if a.ifIndex ≠ b.ifIndex then a.ifIndex ≤ b.ifIndex
  else if a.address ≠ b.address then a.address.ble b.address
  else a.length ≤ b.length

/-- By the index of the interface, then by group. -/
def groupLe (a b : JoinedGroup) : Bool :=
  if a.ifIndex ≠ b.ifIndex then a.ifIndex ≤ b.ifIndex else a.group.ble b.group

/-- The addresses of the machine in order. -/
def sortedAddresses (m : Machine) : List AssignedAddress :=
  m.addresses.mergeSort addressLe

/-- The groups of the machine in order. -/
def sortedGroups (m : Machine) : List JoinedGroup :=
  m.groups.mergeSort groupLe

/-- The interfaces of the machine by name. -/
def sortedInterfaces (m : Machine) : List NetInterface :=
  m.interfaces.mergeSort fun a b => !(b.name < a.name)

end Machine
end MeshLink
