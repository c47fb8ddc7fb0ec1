import MeshLink.Kernel.Errno
set_option autoImplicit false

/-! # Outcomes of kernel requests

A request to the kernel can fail because somebody else was faster: what should be added is there,
or what should go is gone. These races are told apart from real failures by the error number. -/

namespace MeshLink

/-- Why a request to the kernel failed. -/
inductive KernelError
  | alreadyPresent
  | notPresent
  | partialWrite (written expected : Nat)
  | failed (cause : CallError)
deriving DecidableEq

namespace KernelError

/-- The errors that say that it is there already. -/
def presentErrnos : List Errno :=
  [Errno.fileExists, Errno.addressInUse]

/-- The errors that say that it is not there. -/
def absentErrnos : List Errno :=
  [Errno.addressNotAvailable, Errno.noEntry, Errno.noProcess, Errno.noDevice]

/-- Sorts a failed call into races and failures by its error number. -/
def ofCallError : CallError → KernelError
  | .os e =>
    if e ∈ presentErrnos then .alreadyPresent
    else if e ∈ absentErrnos then .notPresent
    else .failed (.os e)
  | e => .failed e

/-- Sorts an error number. -/
def ofErrno (e : Errno) : KernelError :=
  ofCallError (.os e)

/-- Whether what was asked for had been brought about by somebody else. -/
def isRace : KernelError → Bool
  | .alreadyPresent | .notPresent => true
  | _ => false

/-- The error in words. -/
def message : KernelError → String
  | .alreadyPresent => "already present"
  | .notPresent => "not present"
  | .partialWrite written expected =>
    "partial write: " ++ toString written ++ " of " ++ toString expected ++ " bytes"
  | .failed cause => cause.message

end KernelError
end MeshLink
