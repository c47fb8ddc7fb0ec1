import MeshLink.Config
set_option autoImplicit false

/-! # Command line

Three options with a value, written `--name value` or `--name=value`, and two that end the program.
Arguments are handled from left to right and the first fault ends the reading. A value behind an
equals sign is taken at once. A value in the next argument is settled only when the next option
begins or the arguments end, so an unknown argument is told before a fault of such an option in
front of it. -/

namespace MeshLink

/-- The settings of the command line. -/
structure Args where
  interface : String
  mtu : UInt32
  /-- The descriptor of a tunnel device that is already open. -/
  tunFd : Option Int32
deriving DecidableEq

/-- Why the command line gives no settings. -/
inductive ArgsStop
  | invalidValue
  | valueValidation
  | unknownArgument
  | tooManyValues
  | argumentConflict
  | help
  | version
deriving DecidableEq

namespace ArgsStop

/-- The exit code of a program that ends this way. -/
def exitCode : ArgsStop → Nat
  | .help | .version => 0
  | _ => 2

end ArgsStop

/-- The options with a value. -/
inductive ArgOption
  | interface | mtu | tunFd
deriving DecidableEq

/-- What an option's name stands for. -/
inductive ArgName
  | option (o : ArgOption)
  | stop (s : ArgsStop)
deriving DecidableEq

namespace Args

/-- The names behind two dashes. -/
def longNames : List (String × ArgName) :=
  [("interface", .option .interface), ("mtu", .option .mtu), ("tun-fd", .option .tunFd),
    ("help", .stop .help), ("version", .stop .version)]

/-- The letters behind one dash. -/
def shortNames : List (Char × ArgName) :=
  [('h', .stop .help), ('V', .stop .version)]

/-! ## Numbers -/

/-- The value of decimal digits, of which there has to be one. -/
def natural? (cs : List Char) : Option Nat :=
  if cs.isEmpty then none
  else cs.foldlM
    (fun n c => if '0' ≤ c ∧ c ≤ '9' then some (n * 10 + (c.toNat - '0'.toNat)) else none) 0

/-- The value of decimal digits with or without a sign. -/
def integer? (text : String) : Option Int :=
  match text.toList with
  | '-' :: cs => (natural? cs).map fun n => -(n : Int)
  | '+' :: cs => (natural? cs).map fun n => (n : Int)
  | cs => (natural? cs).map fun n => (n : Int)

/-- The value of a text, if it lies between these bounds. -/
def integerIn? (least greatest : Int) (text : String) : Option Int :=
  (integer? text).filter fun n => least ≤ n && n ≤ greatest

/-! ## Reading -/

/-- What was read so far. -/
structure Reading where
  interface : Option String
  mtu : Option UInt32
  tunFd : Option Int32
  /-- An option that is not settled yet, with its value if that was seen. -/
  pending : Option (ArgOption × Option String)
deriving DecidableEq

namespace Reading

/-- Nothing was read. -/
def empty : Reading :=
  ⟨none, none, none, none⟩

/-- Whether the option has a value already. -/
def has (r : Reading) : ArgOption → Bool
  | .interface => r.interface.isSome
  | .mtu => r.mtu.isSome
  | .tunFd => r.tunFd.isSome

/-- Sets an option to the value of a text. -/
def assign (r : Reading) (value : String) : ArgOption → Except ArgsStop Reading
  | .interface => .ok { r with interface := some value }
  | .mtu =>
    match integerIn? 0 4294967295 value with
    | some n => .ok { r with mtu := some (UInt32.ofNat n.toNat) }
    | none => .error .valueValidation
  | .tunFd =>
    match integerIn? (-2147483648) 2147483647 value with
    | some n => .ok { r with tunFd := some (Int32.ofInt n) }
    | none => .error .valueValidation

/-- Sets an option that has no value yet. -/
def assignOnce (r : Reading) (o : ArgOption) (value : String) : Except ArgsStop Reading :=
  if r.has o then .error .argumentConflict else r.assign value o

/-- Settles the option that is not settled yet: it needs a value. -/
def settle (r : Reading) : Except ArgsStop Reading :=
  match r.pending with
  | none => .ok r
  | some (_, none) => .error .invalidValue
  | some (o, some value) => { r with pending := none }.assignOnce o value

/-- Takes an option by its name, with the value behind its equals sign if there is one. -/
def named (r : Reading) (name : ArgName) (value : Option String) : Except ArgsStop Reading :=
  match name, value with
  | .stop _, some _ => .error .tooManyValues
  | .stop s, none => r.settle.bind fun _ => .error s
  | .option o, some value => r.settle.bind fun r => r.assignOnce o value
  | .option o, none => r.settle.map fun r => { r with pending := some (o, none) }

/-- Splits a long option at its first equals sign. -/
def splitValue (cs : List Char) : String × Option String :=
  match cs.span (· ≠ '=') with
  | (name, _ :: value) => (String.ofList name, some (String.ofList value))
  | (name, []) => (String.ofList name, none)

/-- Takes a word that is no option: the value of the option in front of it. -/
def word (r : Reading) (value : String) : Except ArgsStop Reading :=
  match r.pending with
  | some (o, none) => .ok { r with pending := some (o, some value) }
  | _ => .error .unknownArgument

/-- Takes one argument. -/
def step (r : Reading) (arg : String) : Except ArgsStop Reading :=
  match arg.toList with
  | '-' :: '-' :: cs =>
    let (name, value) := splitValue cs
    match longNames.lookup name with
    | some name => r.named name value
    | none => .error .unknownArgument
  | '-' :: c :: _ =>
    match shortNames.lookup c with
    | some name => r.named name none
    | none => .error .unknownArgument
  | _ => r.word arg

/-- Takes all arguments. After `--` nothing may follow. -/
def steps (r : Reading) : List String → Except ArgsStop Reading
  | [] => r.settle
  | "--" :: rest => if rest.isEmpty then r.settle else .error .unknownArgument
  | arg :: rest => (r.step arg).bind fun r => steps r rest

/-- The settings that were read, with the defaults for the others. -/
def toArgs (r : Reading) : Args where
  interface := r.interface.getD Config.defaultInterface
  mtu := r.mtu.getD Config.defaultMtu
  tunFd := r.tunFd

end Reading

/-- The settings of a command line, or why there are none. -/
def parse (argv : List String) : Except ArgsStop Args :=
  (Reading.empty.steps argv).map Reading.toArgs

end Args
end MeshLink
