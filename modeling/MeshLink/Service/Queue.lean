import MeshLink.Controller.Operation
set_option autoImplicit false

/-! # The command queue

One dispatcher owns the controller and takes commands from a bounded queue, one at a time and in
the order in which they were posted. Every command gets a ticket; some are answered under that
ticket. Once the controller has been asked to end, the queue is closed: commands still waiting are
never carried out, whoever waits for an answer is told so, and nothing can be posted any more. -/

namespace MeshLink

/-- What can be asked of a service. -/
inductive Command
  | addresses (snapshot : List AddressReport)
  | prefixes (snapshot : List PrefixReport)
  | daemonDied
  | setUp (up : Bool)
  /-- Asks what the interface carries. -/
  | inventory
  | destroy
deriving DecidableEq

namespace Command

/-- Whether somebody waits for an answer. -/
def isAwaited : Command → Bool
  | .setUp _ | .inventory | .destroy => true
  | .addresses _ | .prefixes _ | .daemonDied => false

end Command

/-- What a caller is told. -/
inductive Answer
  | switched (result : ControllerResult)
  | inventory (inventory : Inventory)
  | destroyed
  | closed
deriving DecidableEq

/-- The number of a command, by which its answer is found. -/
abbrev Ticket := Nat

/-- A controller behind its queue. -/
structure Service where
  controller : Controller
  /-- The commands that wait, the first to be served first. -/
  queue : List (Ticket × Command)
  nextTicket : Ticket
  /-- Whether the dispatcher still takes commands. -/
  running : Bool
  /-- The answers given so far, the latest first. -/
  answers : List (Ticket × Answer)

/-- What becomes of an attempt to post a command. -/
inductive Posting
  | accepted (ticket : Ticket)
  | full
  | closed
deriving DecidableEq

namespace Service

/-- How many commands can wait. -/
def capacity : Nat := 64

/-- A service whose queue is empty. -/
def new (controller : Controller) : Service :=
  ⟨controller, [], 0, true, []⟩

/-- Puts a command into the queue, if the dispatcher runs and there is room. -/
def post (s : Service) (command : Command) : Posting × Service :=
  if !s.running then (.closed, s)
  else if capacity ≤ s.queue.length then (.full, s)
  else
    (.accepted s.nextTicket,
      { s with queue := s.queue ++ [(s.nextTicket, command)], nextTicket := s.nextTicket + 1 })

/-- Gives the answer under a ticket. -/
def answer (s : Service) (ticket : Ticket) (a : Answer) : Service :=
  { s with answers := (ticket, a) :: s.answers }

/-- The answer that was given under a ticket. -/
def answer? (s : Service) (ticket : Ticket) : Option Answer :=
  s.answers.lookup ticket

/-- Ends the dispatcher: who waits for an answer gets none. -/
def close (s : Service) : Service :=
  { s with
    queue := []
    running := false
    answers := (s.queue.filter (·.2.isAwaited)).map (fun (ticket, _) => (ticket, .closed)) ++
      s.answers }

variable {σ : Type} [Host σ]

/-- Carries a command out and answers it; the end of the controller closes the queue. -/
def handle (s : Service) (ticket : Ticket) : Command → LinkM σ Service
  | .addresses snapshot => return { s with controller := ← s.controller.updateAddresses snapshot }
  | .prefixes snapshot => return { s with controller := s.controller.updatePrefixes snapshot }
  | .daemonDied => return { s with controller := ← s.controller.daemonDied }
  | .setUp up => do
    let (result, controller) ← s.controller.setUp up
    return { s with controller := controller }.answer ticket (.switched result)
  | .inventory => return s.answer ticket (.inventory s.controller.inventory)
  | .destroy => do
    let controller ← s.controller.destroy
    return ({ s with controller := controller }.answer ticket .destroyed).close

/-- Takes the first command of the queue, if there is one. -/
def serve (s : Service) : LinkM σ Service :=
  match s.queue with
  | [] => return s
  | (ticket, command) :: queue => { s with queue := queue }.handle ticket command

/-- Takes so many commands one after another. -/
def serveMany : Nat → Service → LinkM σ Service
  | 0, s => return s
  | n + 1, s => do serveMany n (← s.serve)

/-- Serves everything that waits. -/
def drain (s : Service) : LinkM σ Service :=
  serveMany s.queue.length s

/-- All callers are gone: serves everything that waits, then ends the controller. -/
def finish (s : Service) : LinkM σ Service := do
  let s ← s.drain
  let controller ← s.controller.destroy
  return { s with controller := controller }.close

end Service
end MeshLink
