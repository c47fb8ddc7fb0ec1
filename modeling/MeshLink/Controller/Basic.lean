import MeshLink.Config
import MeshLink.Diff
import MeshLink.Kernel.Membership
import MeshLink.Link.Inventory
import MeshLink.Netlink.AddressRequest
import MeshLink.Sequence
import MeshLink.Snapshot
set_option autoImplicit false

/-! # The controller of an interface

A controller keeps the addresses, routes and group memberships of one interface in line with the
snapshots of the mesh daemon. It remembers what it has asked for, compares each snapshot with
that, and asks the kernel for the difference only. Adding is remembered once the kernel has
accepted it, so that a failure is made good by the next snapshot; removing is remembered before the
kernel is asked, since the daemon no longer has the address whatever the kernel answers. -/

namespace MeshLink

/-- A tunnel device that is open under a name. -/
structure Device where
  name : String
deriving DecidableEq

/-- Takes over an open descriptor under a name. -/
def Device.adopt (name : String) : Except ControllerError Device :=
  if isInterfaceName name then .ok ⟨name⟩ else .error (.invalidInterfaceName name)

/-- What controllers share: the next sequence number and the host. -/
structure Shared (σ : Type) where
  sequence : UInt32
  host : σ

/-- Computations on what is shared. -/
abbrev LinkM (σ : Type) := StateM (Shared σ)

namespace LinkM

variable {σ : Type}

/-- A call to the host. -/
def onHost {α : Type} (action : StateM σ α) : LinkM σ α := fun s =>
  let (a, host) := action s.host
  (a, { s with host := host })

/-- Takes the next sequence number. -/
def takeSequence : LinkM σ UInt32 := fun s =>
  let (n, sequence) := takeNumber s.sequence
  (n, { s with sequence := sequence })

end LinkM

/-- The kernel resources of a controller: its device, its two sockets and the interface's index. -/
structure Resources where
  device : Device
  ifIndex : UInt32
deriving DecidableEq

/-- What a controller knows: its settings, its stage of life, the resources it holds, and what it
    has
    asked the kernel for. Routes to on-mesh networks are held besides those of addresses. -/
structure Controller where
  config : Config
  state : Lifecycle
  resources : Option Resources
  inventory : Inventory
  groups : List Ipv6
  onMesh : List Route
deriving DecidableEq

/-- How an operation ends that can be refused. -/
abbrev ControllerResult := Except ControllerError Unit

instance : DecidableEq ControllerResult
  | .ok (), .ok () => isTrue rfl
  | .ok (), .error _ => isFalse nofun
  | .error _, .ok () => isFalse nofun
  | .error e, .error e' => decidable_of_iff (e = e') ⟨congrArg _, Except.error.inj⟩

namespace Controller

variable {σ : Type} [Host σ]

/-- A controller that holds nothing and has asked for nothing. -/
def new (config : Config) : Controller where
  config := config
  state := .created
  resources := none
  inventory := .empty config.interface config.mtu
  groups := []
  onMesh := []

/-- The index of the interface, while the controller holds its resources. -/
def ifIndex (c : Controller) : Option UInt32 :=
  c.resources.map (·.ifIndex)

/-- The route to a network through the interface of the controller. -/
def routeTo (c : Controller) (destination : Net) : Route :=
  ⟨destination, c.config.interface, c.config.mtu⟩

/-! ## What is remembered -/

/-- Remembers an address and the route to its network. -/
def remember (c : Controller) (a : LinkAddress) : Controller :=
  { c with inventory := ((c.inventory.addAddress a).1.addRoute (c.routeTo a.network)).1 }

/-- Forgets an address and the route to its network. -/
def forget (c : Controller) (a : LinkAddress) : Controller :=
  { c with inventory := ((c.inventory.removeAddress a).1.removeRoute (c.routeTo a.network)).1 }

/-- Remembers a route, once. -/
def rememberRoute (c : Controller) (r : Route) : Controller :=
  { c with inventory := (c.inventory.addRoute r).1 }

/-- Forgets a route. -/
def forgetRoute (c : Controller) (r : Route) : Controller :=
  { c with inventory := (c.inventory.removeRoute r).1 }

/-! ## Requests about addresses and groups -/

/-- Whether the address is there after a request to add it. -/
def isAccepted : KernelResult → Bool
  | .ok () => true
  | .error .alreadyPresent => true
  | .error _ => false

/-- Asks for an address and remembers it if it is there afterwards. -/
def addAddress (c : Controller) (a : LinkAddress) : LinkM σ Controller := do
  match c.resources with
  | none => return c
  | some r =>
    let seq ← LinkM.takeSequence
    let now ← LinkM.onHost Host.now
    let request := Netlink.AddressRequest.of a r.ifIndex now
    let result ← LinkM.onHost (Host.send (Netlink.newAddress seq request) seq)
    return if isAccepted result then c.remember a else c

/-- Forgets an address and asks for its removal, whatever comes of it. -/
def removeAddress (c : Controller) (a : LinkAddress) : LinkM σ Controller := do
  let c := c.forget a
  match c.resources with
  | none => return c
  | some r =>
    let seq ← LinkM.takeSequence
    let _ ← LinkM.onHost (Host.send (Netlink.delAddress seq a.address a.length r.ifIndex) seq)
    return c

/-- Asks for a group; what comes of it is not looked at. -/
def joinGroup (c : Controller) (group : Ipv6) : LinkM σ Unit := do
  match c.resources with
  | none => return ()
  | some r => discard (LinkM.onHost (Membership.join ⟨r.ifIndex⟩ group))

/-- Asks to leave a group; what comes of it is not looked at. -/
def leaveGroup (c : Controller) (group : Ipv6) : LinkM σ Unit := do
  match c.resources with
  | none => return ()
  | some r => discard (LinkM.onHost (Membership.leave ⟨r.ifIndex⟩ group))

/-- Takes every address and every route off the interface and forgets the on-mesh networks. -/
def strip (c : Controller) : LinkM σ Controller := do
  let c ← c.inventory.addresses.foldlM removeAddress c
  let c := c.inventory.routes.foldl forgetRoute c
  return { c with onMesh := [] }

/-- Closes the device and both sockets, if the controller holds them. -/
def release (c : Controller) : LinkM σ Controller := do
  match c.resources with
  | none => return c
  | some _ =>
    LinkM.onHost (Host.close .device)
    LinkM.onHost (Host.close .routes)
    LinkM.onHost (Host.close .groups)
    return { c with resources := none }

end Controller
end MeshLink
