import MeshLink.Daemon.Args
import MeshLink.Daemon.Input
import MeshLink.Machine.Sockets
import MeshLink.Service.Caller
set_option autoImplicit false

/-! # The daemon

Reads its settings, gets the device, starts the controller and brings the link up. Then it passes
the lines of its input on until the input ends, a signal comes or the service has stopped, and
takes everything down again. -/

namespace MeshLink

/-- Why the daemon did not get as far as serving. -/
inductive StartError
  | device (cause : ControllerError)
  | controller (e : ControllerError)
deriving DecidableEq

namespace StartError

/-- What a user is asked when there is no device. -/
def deviceHint : String :=
  "Do you have CAP_NET_ADMIN?"

/-- A text whose later lines stand under its first one in a report. -/
def indented (text : String) : String :=
  String.ofList (text.toList.flatMap fun c => if c = '\n' then ['\n', ' ', ' ', ' ', ' '] else [c])

/-- The error as it is reported, with its cause below. -/
def report : StartError → String
  | .device cause =>
    "Error: " ++ deviceHint ++ "\n\nCaused by:\n    " ++ indented cause.message
  | .controller e => "Error: " ++ e.message

end StartError

namespace Daemon

/-! ## Serving -/

variable {σ : Type} [Host σ]

/-- Passes lines on until something ends the input or the service has stopped. -/
def listen (s : Service) : List InputEvent → LinkM σ Service
  | .line text :: events => do
    match ← s.dispatchLine text with
    | (.ok (), s) => listen s events
    | (.error _, s) => return s
  | _ => return s

/-- Serves a controller that was started, and ends it when the input ends. -/
def serve (c : Controller) (events : List InputEvent) : LinkM σ Controller := do
  let s ← listen (.new c) events
  let (_, s) ← s.destroy
  let s ← s.finish
  return s.controller

/-! ## Starting -/

/-- The device of the daemon: adopted if a descriptor was handed over, else created. -/
def openDevice (config : Config) (tunFd : Option Int32) :
    StateM Machine (Except StartError Device) := do
  match tunFd with
  | some _ => return (Device.adopt config.interface).mapError .controller
  | none => return (← Machine.createDevice config.interface config.mtu).mapError .device

variable [Netlink.Decoder]

/-- A controller that was started and brought up; what it holds is closed if that fails. -/
def bringUp (config : Config) (device : Device) :
    LinkM Machine (Except StartError Controller) := do
  match ← (Controller.new config).start device with
  | (.error e, _) => return .error (.controller e)
  | (.ok (), c) =>
    match ← c.setUp true with
    | (.error e, c) => do
      let _ ← c.release
      return .error (.controller e)
    | (.ok (), c) => return .ok c

/-- Starts with the settings of a command line and serves until the input ends. -/
def run (args : Args) (events : List InputEvent) : LinkM Machine (Except StartError Unit) := do
  match Config.of args.interface args.mtu with
  | .error e => return .error (.controller e)
  | .ok config =>
    match ← LinkM.onHost (openDevice config args.tunFd) with
    | .error e => return .error e
    | .ok device =>
      match ← bringUp config device with
      | .error e => return .error e
      | .ok c => do
        let _ ← serve c events
        return .ok ()

/-- How the program ends. -/
structure Ending where
  exitCode : Nat
  report : Option String
  /-- The machine afterwards, unless the command line ended the program. -/
  machine : Option Machine

/-- The program, from its command line to its end. -/
def program (argv : List String) (events : List InputEvent) (m : Machine) : Ending :=
  match Args.parse argv with
  | .error stop => ⟨stop.exitCode, none, none⟩
  | .ok args =>
    match (run args events).run ⟨0, m⟩ with
    | (.error e, s) => ⟨1, some e.report, some s.host⟩
    | (.ok (), s) => ⟨0, none, some s.host⟩

end Daemon
end MeshLink
