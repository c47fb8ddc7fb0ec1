import MeshLink.Machine.Device
import MeshLink.Netlink.AddressMessage
set_option autoImplicit false

/-! # Sockets of a machine

The socket for address requests with the kernel behind it, and the socket for group memberships. A
socket that could not be made ready is closed again. -/

namespace MeshLink.Machine

/-- Goes on with an open handle, which is closed if that fails. -/
def guarding {α : Type} (handle : Handle) (action : SystemM α) : SystemM α :=
  tryCatch action fun e => do
    close handle
    throw e

/-! ## Address requests -/

/-- Opens the socket for address requests. -/
def openRoutes : SystemM Unit := do
  invoke .routeSocket
  guarding .routes do
    invoke .bind
    invoke .socketName
    invoke .connect

/-- What the kernel does about an address message. -/
def act (m : Netlink.AddressMessage) : SystemM Unit := do
  match m.address with
  | none => refuse Errno.invalidArgument
  | some a =>
    let s ← get
    let entry : AssignedAddress := ⟨m.ifIndex, a, m.length⟩
    if m.type = Netlink.MessageType.newAddress then
      if s.interfaces.all (·.index ≠ m.ifIndex) then refuse Errno.noDevice
      if entry ∉ s.addresses then
        modify fun s => { s with addresses := s.addresses ++ [entry] }
    else if m.type = Netlink.MessageType.delAddress then
      if entry ∉ s.addresses then refuse Errno.addressNotAvailable
      modify fun s => { s with addresses := s.addresses.filter (· ≠ entry) }
    else refuse Errno.notSupported

/-- The code of an acknowledgement: zero, or the negated error number. -/
def resultCode : CallResult → Int32
  | .ok () => 0
  | .error (.os e) => -e
  | .error (.rejected _) => -Errno.invalidArgument

/-- The kernel acts on a request and queues its acknowledgement. -/
def receive (message : List UInt8) : StateM Machine Unit := do
  if (← get).responsive then
    let result ← match Netlink.AddressMessage.decode? message with
      | some m => (act m).run
      | none => pure (.error (.os Errno.invalidArgument))
    let reply := Netlink.acknowledgement message (resultCode result)
    modify fun s => { s with replies := s.replies ++ [.bytes reply] }

/-- Takes the scripted outcome of the next write. -/
def nextWrite : StateM Machine (Option WriteFault) := fun m =>
  (m.writes.head?.join, { m with writes := m.writes.tail })

/-- Writes a request; gives the number of octets written. -/
def write (message : List UInt8) : SystemM Nat := do
  emit (.send message)
  match ← nextWrite with
  | some (.errno e) => refuse e
  | some (.written n) => return n
  | none =>
    receive message
    return message.length

section

variable [Netlink.Decoder]

/-- Reads until the outcome of a request is known; gives it with the number of reads. -/
def awaitReply (seq : UInt32) : StateM Machine (KernelResult × Nat) := fun m =>
  let (result, reads, replies) := Acknowledgement.await seq Acknowledgement.maxReads m.replies
  ((result, reads), { m with replies := replies })

/-- Sends a request and learns its outcome and the number of reads that took. A short write is a
    failure, after which nothing is read. -/
def send (message : List UInt8) (seq : UInt32) : StateM Machine (KernelResult × Nat) := do
  match ← (write message).run with
  | .error e => return (.error (.ofCallError e), 0)
  | .ok n =>
    if n = message.length then awaitReply seq
    else return (.error (.partialWrite n message.length), 0)

end

/-! ## Group memberships -/

/-- Opens the socket for group memberships on an interface. -/
def openGroups (ifIndex : UInt32) : SystemM Unit := do
  invoke .groupSocket
  guarding .groups do
    invoke .multicastInterface
    emit (.multicastInterface ifIndex.toInt32)

/-- Joins a group on an interface; a member cannot join again. -/
def joinGroup (group : Ipv6) (ifIndex : UInt32) : SystemM Unit := do
  emit (.join group ifIndex)
  invoke .join
  let m ← get
  let entry : JoinedGroup := ⟨ifIndex, group⟩
  if entry ∈ m.groups then refuse Errno.addressInUse
  modify fun m => { m with groups := m.groups ++ [entry] }

/-- Leaves a group on an interface; only a member can leave. -/
def leaveGroup (group : Ipv6) (ifIndex : UInt32) : SystemM Unit := do
  emit (.leave group ifIndex)
  invoke .leave
  let m ← get
  let entry : JoinedGroup := ⟨ifIndex, group⟩
  if entry ∉ m.groups then refuse Errno.addressNotAvailable
  modify fun m => { m with groups := m.groups.filter (· ≠ entry) }

instance [Netlink.Decoder] : Host Machine where
  now m := (bootTime m.boot m.monotonic, m)
  interfaceIndex name := (Machine.interfaceIndex name).run
  openRoutes := Machine.openRoutes.run
  openGroups ifIndex := (Machine.openGroups ifIndex).run
  send message seq := Prod.fst <$> Machine.send message seq
  joinGroup group ifIndex := (Machine.joinGroup group ifIndex).run
  leaveGroup group ifIndex := (Machine.leaveGroup group ifIndex).run
  setLink name up := (Machine.setLink name up).run
  close handle := Machine.close handle

end MeshLink.Machine
