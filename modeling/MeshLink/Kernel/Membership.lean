import MeshLink.Kernel.Host
set_option autoImplicit false

/-! # Group memberships

Joins and leaves groups on one interface. No list of groups is kept here: each call makes exactly
one call to the host. Being a member before a join is a success; not being one before a leave is
told to the caller. -/

namespace MeshLink

/-- The group memberships of the interface of an index. -/
structure Membership where
  ifIndex : UInt32
deriving DecidableEq

namespace Membership

variable {σ : Type} [Host σ]

/-- The outcome of a join: a group that was joined before counts as joined. -/
def joinOutcome : CallResult → KernelResult
  | .ok () => .ok ()
  | .error e =>
    match KernelError.ofCallError e with
    | .alreadyPresent => .ok ()
    | other => .error other

/-- The outcome of a leave: a group that was not joined is told as not present. -/
def leaveOutcome : CallResult → KernelResult
  | .ok () => .ok ()
  | .error e => .error (KernelError.ofCallError e)

/-- Joins a group on the interface. -/
def join (m : Membership) (group : Ipv6) : StateM σ KernelResult :=
  joinOutcome <$> Host.joinGroup group m.ifIndex

/-- Leaves a group on the interface. -/
def leave (m : Membership) (group : Ipv6) : StateM σ KernelResult :=
  leaveOutcome <$> Host.leaveGroup group m.ifIndex

end Membership
end MeshLink
