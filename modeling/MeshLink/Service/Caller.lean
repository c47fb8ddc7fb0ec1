import MeshLink.Message.Format
import MeshLink.Service.Queue
import MeshLink.Text.Blank
set_option autoImplicit false

/-! # Callers of the service

A caller that posts one command after another and lets the dispatcher run whenever it has to wait:
for room in the queue, or for an answer. -/

namespace MeshLink

/-- Why a caller does not get what it asked for. -/
inductive ServiceError
  | closed
  | controller (e : ControllerError)
deriving DecidableEq

/-- The error in words. -/
def ServiceError.message : ServiceError → String
  | .closed => "controller task has stopped"
  | .controller e => e.message

namespace Service

variable {σ : Type} [Host σ]

/-- Posts a command, after waiting for room if there is none. -/
def submit (s : Service) (command : Command) : LinkM σ (Option Ticket × Service) := do
  let s ← if capacity ≤ s.queue.length then s.drain else pure s
  match s.post command with
  | (.accepted ticket, s) => return (some ticket, s)
  | (_, s) => return (none, s)

/-- Posts a command that nobody waits for. -/
def tell (s : Service) (command : Command) : LinkM σ (Except ServiceError Unit × Service) := do
  let (ticket, s) ← s.submit command
  return (if ticket.isSome then .ok () else .error .closed, s)

/-- Posts a command and waits for its answer. -/
def ask (s : Service) (command : Command) : LinkM σ (Answer × Service) := do
  let (ticket, s) ← s.submit command
  match ticket with
  | none => return (.closed, s)
  | some ticket =>
    let s ← s.drain
    return ((s.answer? ticket).getD .closed, s)

/-- Switches the link and waits for the result. -/
def setUp (s : Service) (up : Bool) : LinkM σ (Except ServiceError Unit × Service) := do
  match ← s.ask (.setUp up) with
  | (.switched (.ok ()), s) => return (.ok (), s)
  | (.switched (.error e), s) => return (.error (.controller e), s)
  | (_, s) => return (.error .closed, s)

/-- What the interface carries after every command posted before. -/
def inventory (s : Service) : LinkM σ (Except ServiceError Inventory × Service) := do
  match ← s.ask .inventory with
  | (.inventory inventory, s) => return (.ok inventory, s)
  | (_, s) => return (.error .closed, s)

/-- Ends the controller and waits until that is done. -/
def destroy (s : Service) : LinkM σ (Except ServiceError Unit × Service) := do
  match ← s.ask .destroy with
  | (.destroyed, s) => return (.ok (), s)
  | (_, s) => return (.error .closed, s)

/-! ## Lines of the mesh daemon -/

/-- The message of a line; blank lines and lines that are no message carry none. -/
def message? (line : String) : Option DaemonMessage :=
  DaemonMessage.ofText? (String.ofList (trim line.toList))

/-- The command that a message is passed on as. -/
def command : DaemonMessage → Command
  | .addresses snapshot => .addresses snapshot
  | .prefixes snapshot => .prefixes snapshot
  | .died => .daemonDied

/-- Passes the message of a line on, if it carries one. -/
def dispatchLine (s : Service) (line : String) : LinkM σ (Except ServiceError Unit × Service) :=
  match message? line with
  | none => return (.ok (), s)
  | some m => s.tell (command m)

/-- Passes lines on, up to the first that fails. -/
def dispatchLines (s : Service) : List String → LinkM σ (Except ServiceError Unit × Service)
  | [] => return (.ok (), s)
  | line :: lines => do
    match ← s.dispatchLine line with
    | (.ok (), s) => dispatchLines s lines
    | refused => return refused

end Service
end MeshLink
