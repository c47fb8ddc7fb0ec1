set_option autoImplicit false

/-! # The life of a controller

A controller is created without kernel resources, gets them once, goes up and down any number of
times, and ends destroyed. -/

namespace MeshLink

/-- The stages in the life of a controller. -/
inductive Lifecycle
  /-- It holds no kernel resources yet. -/
  | created
  /-- It holds its resources and has not touched the link state. -/
  | initialized
  | up
  | down
  /-- Everything is released; nothing can be done any more. -/
  | destroyed
deriving DecidableEq

namespace Lifecycle

/-- The stage as it is named in errors. -/
def name : Lifecycle → String
  | .created => "created"
  | .initialized => "initialized"
  | .up => "up"
  | .down => "down"
  | .destroyed => "destroyed"

/-- Whether the link state may be changed: the resources are there. -/
def isActive : Lifecycle → Bool
  | .initialized | .up | .down => true
  | .created | .destroyed => false

end Lifecycle

/-- What a controller can be asked to do only at some stages of its life. -/
inductive GuardedAction
  | initialization
  | linkChange
deriving DecidableEq

/-- The action as it is named in errors. -/
def GuardedAction.text : GuardedAction → String
  | .initialization => "initialize"
  | .linkChange => "change link state"

/-- Where a switch of the link leads, in words. -/
def linkDirection (up : Bool) : String :=
  if up then "up" else "down"

end MeshLink
