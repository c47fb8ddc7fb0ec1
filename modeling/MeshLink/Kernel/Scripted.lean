import MeshLink.Kernel.Host
set_option autoImplicit false

/-! # Hosts with scripted failures

Wraps a host so that the next requests and the next group calls can be told to fail. A call whose
turn is a failure does not reach the wrapped host; once a script is used up, every call does. -/

namespace MeshLink

/-- How a request can be told to fail. -/
inductive SendFault
  | errno (e : Errno)
  /-- Only half of it is written. -/
  | half
deriving DecidableEq

namespace SendFault

/-- The outcome of a request of so many octets that fails this way. -/
def outcome (length : Nat) : SendFault → KernelError
  | .errno e => .ofErrno e
  | .half => .partialWrite (length / 2) length

end SendFault

/-- A host with the faults of the next requests and the next group calls; where there is none the
    call goes through. -/
structure Scripted (σ : Type) where
  host : σ
  sends : List (Option SendFault)
  groupCalls : List (Option Errno)

namespace Scripted

variable {σ : Type}

/-- A host that fails nowhere by script. -/
def of (host : σ) : Scripted σ :=
  ⟨host, [], []⟩

/-- Makes a call that no script is about. -/
def through {α : Type} (action : StateM σ α) : StateM (Scripted σ) α := fun s =>
  let (a, host) := action s.host
  (a, { s with host := host })

/-- Takes the fault of the next request. -/
def nextSend : StateM (Scripted σ) (Option SendFault) := fun s =>
  (s.sends.head?.join, { s with sends := s.sends.tail })

/-- Takes the fault of the next group call. -/
def nextGroupCall : StateM (Scripted σ) (Option Errno) := fun s =>
  (s.groupCalls.head?.join, { s with groupCalls := s.groupCalls.tail })

/-- A group call, unless it is its turn to fail. -/
def groupCall (action : StateM σ CallResult) : StateM (Scripted σ) CallResult := do
  match ← nextGroupCall with
  | some e => return .error (.os e)
  | none => through action

instance [Host σ] : Host (Scripted σ) where
  now := through Host.now
  interfaceIndex name := through (Host.interfaceIndex name)
  openRoutes := through Host.openRoutes
  openGroups ifIndex := through (Host.openGroups ifIndex)
  send message seq := do
    match ← nextSend with
    | some fault => return .error (fault.outcome message.length)
    | none => through (Host.send message seq)
  joinGroup group ifIndex := groupCall (Host.joinGroup group ifIndex)
  leaveGroup group ifIndex := groupCall (Host.leaveGroup group ifIndex)
  setLink name up := through (Host.setLink name up)
  close handle := through (Host.close handle)

end Scripted
end MeshLink
