import MeshLink.Kernel.Host
import MeshLink.Netlink.AddressMessage
set_option autoImplicit false

/-! # A kernel in memory

A host that keeps one interface's addresses and groups in memory, remembers every request it could
read, and fails on demand. Like a real kernel it refuses a second join of a group and the removal
of what is not there; adding an address that is there succeeds. -/

namespace MeshLink

/-- The state of a kernel in memory, with what it is told to fail. -/
structure MemoryKernel where
  ifIndex : UInt32
  time : Int64
  /-- The requests that could be read, failed ones included, the earliest first. -/
  messages : List Netlink.AddressMessage
  addresses : List (Ipv6 × UInt8)
  groups : List Ipv6
  linkUp : Bool
  /-- The positions of the requests that fail. -/
  failingSends : List Nat
  failLink : Bool
  missingInterface : Bool
  failRoutes : Bool
  failGroups : Bool
deriving DecidableEq

namespace MemoryKernel

/-- The index of the interface unless another one is chosen. -/
def defaultIndex : UInt32 := 42

/-- A kernel that holds nothing and fails nowhere. -/
def idle (time : Int64) : MemoryKernel where
  ifIndex := defaultIndex
  time := time
  messages := []
  addresses := []
  groups := []
  linkUp := false
  failingSends := []
  failLink := false
  missingInterface := false
  failRoutes := false
  failGroups := false

/-- Adds an element at the end unless it is there. -/
def insertNew {α : Type} [DecidableEq α] (a : α) (as : List α) : List α :=
  if a ∈ as then as else as ++ [a]

/-- A call that fails with this error number. -/
def refusal (e : Errno) : CallResult :=
  .error (.os e)

/-- Handles a request. What cannot be read is an invalid argument and leaves no trace; anything
    else is remembered before it is looked at. -/
def send (message : List UInt8) : StateM MemoryKernel KernelResult := fun k =>
  match Netlink.AddressMessage.decode? message with
  | none => (.error (.ofErrno Errno.invalidArgument), k)
  | some m =>
    let attempt := k.messages.length
    let k := { k with messages := k.messages ++ [m] }
    if attempt ∈ k.failingSends then (.error (.ofErrno Errno.inputOutput), k)
    else
      match m.address with
      | none => (.error (.ofErrno Errno.invalidArgument), k)
      | some a =>
        let key := (a, m.length)
        if m.type = Netlink.MessageType.newAddress then
          (.ok (), { k with addresses := insertNew key k.addresses })
        else if m.type = Netlink.MessageType.delAddress then
          if key ∈ k.addresses then
            (.ok (), { k with addresses := k.addresses.filter (· ≠ key) })
          else (.error .notPresent, k)
        else (.error (.ofErrno Errno.notSupported), k)

/-- Joins a group; a member cannot join again. -/
def joinGroup (group : Ipv6) : StateM MemoryKernel CallResult := fun k =>
  if group ∈ k.groups then (refusal Errno.addressInUse, k)
  else (.ok (), { k with groups := k.groups ++ [group] })

/-- Leaves a group; only a member can leave. -/
def leaveGroup (group : Ipv6) : StateM MemoryKernel CallResult := fun k =>
  if group ∈ k.groups then (.ok (), { k with groups := k.groups.filter (· ≠ group) })
  else (refusal Errno.addressNotAvailable, k)

/-- Switches the link. -/
def setLink (up : Bool) : StateM MemoryKernel CallResult := fun k =>
  if k.failLink then (refusal Errno.operationNotPermitted, k)
  else (.ok (), { k with linkUp := up })

instance : Host MemoryKernel where
  now k := (k.time, k)
  interfaceIndex _ k :=
    (if k.missingInterface then .error (.os Errno.noDevice) else .ok k.ifIndex, k)
  openRoutes k := (if k.failRoutes then refusal Errno.operationNotPermitted else .ok (), k)
  openGroups _ k := (if k.failGroups then refusal Errno.tooManyFiles else .ok (), k)
  send message _ := send message
  joinGroup group _ := joinGroup group
  leaveGroup group _ := leaveGroup group
  setLink _ up := setLink up
  close _ := pure ()

/-- The order of addresses: by octets, then by length. -/
def keyLe (a b : Ipv6 × UInt8) : Bool :=
  if a.1 = b.1 then a.2 ≤ b.2 else a.1.ble b.1

/-- The addresses in order, each with its length. -/
def sortedAddresses (k : MemoryKernel) : List (Ipv6 × UInt8) :=
  k.addresses.mergeSort keyLe

/-- The groups in order. -/
def sortedGroups (k : MemoryKernel) : List Ipv6 :=
  k.groups.mergeSort Ipv6.ble

end MemoryKernel
end MeshLink
