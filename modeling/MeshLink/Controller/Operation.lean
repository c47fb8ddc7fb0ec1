import MeshLink.Controller.Basic
import MeshLink.Controller.Desired
set_option autoImplicit false

/-! # Operations of a controller

The six things a controller can be asked to do. Starting it and switching the link can be refused;
the others always go through, and what fails on the way is left for the next snapshot. -/

namespace MeshLink

namespace Controller

variable {σ : Type} [Host σ]

/-- Gives up with an error after closing what is held. -/
def abandon (c : Controller) (held : List Handle) (e : ControllerError) :
    LinkM σ (ControllerResult × Controller) := do
  held.forM fun h => LinkM.onHost (Host.close h)
  return (.error e, c)

/-- Takes over the device and opens the sockets. On failure everything acquired so far is closed,
    the device included, and the controller stays as it was. -/
def start (c : Controller) (device : Device) : LinkM σ (ControllerResult × Controller) := do
  if c.state ≠ .created then
    c.abandon [.device] (.invalidState .initialization c.state)
  else if device.name ≠ c.config.interface then
    c.abandon [.device] (.invalidInterfaceName device.name)
  else
    match ← LinkM.onHost (Host.interfaceIndex c.config.interface) with
    | .error e => c.abandon [.device] (.interfaceIndex c.config.interface e)
    | .ok ifIndex =>
      match ← LinkM.onHost Host.openRoutes with
      | .error e => c.abandon [.device] (.routeSocket e)
      | .ok () =>
        match ← LinkM.onHost (Host.openGroups ifIndex) with
        | .error e => c.abandon [.routes, .device] (.multicastSocket c.config.interface e)
        | .ok () =>
          return (.ok (), { c with state := .initialized, resources := some ⟨device, ifIndex⟩ })

/-- Switches the link. Going down strips the interface first and counts even if the switch fails;
    group memberships stay. Going up restores nothing, and counts only if the switch succeeds. -/
def setUp (c : Controller) (up : Bool) : LinkM σ (ControllerResult × Controller) := do
  if !c.state.isActive then
    return (.error (.invalidState .linkChange c.state), c)
  else
    let c ← if up then pure c else do
      let c ← c.strip
      pure { c with state := .down }
    match ← LinkM.onHost (Host.setLink c.config.interface up) with
    | .error e => return (.error (.linkState c.config.interface up e), c)
    | .ok () => return (.ok (), { c with state := if up then .up else .down })

/-- Brings the interface in line with a complete snapshot of addresses: removals, additions,
    leaves, joins. -/
def updateAddresses (c : Controller) (snapshot : List AddressReport) : LinkM σ Controller := do
  if c.resources.isNone then
    return c
  else
    let entries := AddressReport.entries snapshot
    let now ← LinkM.onHost Host.now
    let groups := Desired.groups entries
    let addresses := Diff.between c.inventory.addresses (Desired.addresses entries now)
    let c ← addresses.removed.foldlM removeAddress c
    let c ← addresses.added.foldlM addAddress c
    let memberships := Diff.between c.groups groups
    memberships.removed.forM c.leaveGroup
    memberships.added.forM c.joinGroup
    return { c with groups := Diff.distinct groups }

/-- Brings the remembered routes in line with a complete snapshot of on-mesh networks. The kernel
    is asked for nothing. -/
def updatePrefixes (c : Controller) (snapshot : List PrefixReport) : Controller :=
  if c.state = .destroyed then c
  else
    let routes := (PrefixReport.nets snapshot).map c.routeTo
    let diff := Diff.between c.onMesh routes
    let c := diff.removed.foldl forgetRoute c
    let c := diff.added.foldl rememberRoute c
    { c with onMesh := Diff.distinct routes }

/-- The mesh daemon is gone: takes the interface down, whatever comes of it. -/
def daemonDied (c : Controller) : LinkM σ Controller := do
  let (_, c) ← c.setUp false
  return c

/-- Strips the interface, if there is one, and releases everything for good. -/
def destroy (c : Controller) : LinkM σ Controller := do
  if c.state = .destroyed then
    return c
  else
    let c ← if c.resources.isSome then c.strip else pure c
    let c ← c.release
    return { c with state := .destroyed }

end Controller

/-- What a controller can be asked to do. -/
inductive Operation
  | start (device : Device)
  | setUp (up : Bool)
  | addresses (snapshot : List AddressReport)
  | prefixes (snapshot : List PrefixReport)
  | daemonDied
  | destroy
deriving DecidableEq

/-- Carries out an operation; those that cannot be refused succeed. -/
def Controller.apply {σ : Type} [Host σ] (c : Controller) :
    Operation → LinkM σ (ControllerResult × Controller)
  | .start device => c.start device
  | .setUp up => c.setUp up
  | .addresses snapshot => return (.ok (), ← c.updateAddresses snapshot)
  | .prefixes snapshot => return (.ok (), c.updatePrefixes snapshot)
  | .daemonDied => return (.ok (), ← c.daemonDied)
  | .destroy => return (.ok (), ← c.destroy)

end MeshLink
