import MeshLink.Json.Value
import MeshLink.Message.Basic
set_option autoImplicit false

/-! # The JSON form of messages

A message is written as an object with one member, named after its kind, or as the bare word when
it carries nothing. An entry of a snapshot is written as an object with all its fields.

A reader also takes an entry in other forms: fields in any order, members of other names (which are
passed over), flags left out (which are false), and an array of the fields in their order, of which
flags at the end may be left out. It refuses a field that occurs twice or has a value of another
kind. -/

namespace MeshLink

namespace Json

/-! ## Single values -/

/-- A byte: a whole number up to 255 without sign, fraction or exponent. -/
def byte? : Json → Option UInt8
  | .number ⟨false, n, []⟩ => if n < 256 then some (UInt8.ofNat n) else none
  | _ => none

/-- A truth value. -/
def bool? : Json → Option Bool
  | .bool b => some b
  | _ => none

/-- An array, every item of which can be read. -/
def list? {α : Type} (read : Json → Option α) : Json → Option (List α)
  | .array items => items.mapM read
  | _ => none

/-- A byte as a number. -/
def ofByte (b : UInt8) : Json :=
  .number ⟨false, b.toNat, []⟩

/-- Bytes as an array of numbers. -/
def ofBytes (bs : List UInt8) : Json :=
  .array (bs.map ofByte)

/-! ## Fields of an object -/

/-- The members of an object, in order. -/
abbrev Members := List (Text × Json)

/-- Whether every member has a name that is a text. -/
def namesAreTexts (members : Members) : Bool :=
  members.all (·.1.isSome)

/-- The value of a field, if it occurs; refused when it occurs more than once. -/
def field? (name : String) (members : Members) : Option (Option Json) :=
  match members.filter (·.1 == some name) with
  | [] => some none
  | [(_, value)] => some (some value)
  | _ => none

/-- The value of a field that has to occur. -/
def required? {α : Type} (name : String) (read : Json → Option α) (members : Members) :
    Option α := do
  let value ← field? name members
  value >>= read

/-- The value of a flag, which is false unless it occurs. -/
def flag? (name : String) (members : Members) : Option Bool := do
  match ← field? name members with
  | none => some false
  | some value => bool? value

/-- A member of this name. -/
def member (name : String) (value : Json) : Text × Json :=
  (some name, value)

end Json

open Json

/-! ## The names under which things stand in messages -/

namespace FieldName

def address : String := "address"

def length : String := "prefix_length"

def meshLocal : String := "is_mesh_local"

def activeOmr : String := "is_active_omr"

def preferred : String := "is_preferred"

def octets : String := "prefix"

def addresses : String := "addresses"

def prefixes : String := "prefixes"

def died : String := "daemon_died"

end FieldName

/-! ## Entries -/

namespace AddressReport

/-- The entry with all its fields. -/
def toJson (r : AddressReport) : Json :=
  .object [
    member FieldName.address (ofBytes r.address),
    member FieldName.length (ofByte r.length),
    member FieldName.meshLocal (.bool r.meshLocal),
    member FieldName.activeOmr (.bool r.activeOmr),
    member FieldName.preferred (.bool r.preferred)]

/-- An entry from its fields by name. -/
def ofMembers? (members : Members) : Option AddressReport := do
  guard (namesAreTexts members)
  let address ← required? FieldName.address (list? byte?) members
  let length ← required? FieldName.length byte? members
  let meshLocal ← flag? FieldName.meshLocal members
  let activeOmr ← flag? FieldName.activeOmr members
  let preferred ← flag? FieldName.preferred members
  return { address, length, meshLocal, activeOmr, preferred }

/-- An entry from its fields in order. -/
def ofItems? : List Json → Option AddressReport
  | address :: length :: flags => do
    guard (flags.length ≤ 3)
    let address ← list? byte? address
    let length ← byte? length
    let flags ← flags.mapM bool?
    return {
      address, length
      meshLocal := flags.getD 0 false
      activeOmr := flags.getD 1 false
      preferred := flags.getD 2 false }
  | _ => none

/-- An entry in either form. -/
def ofJson? : Json → Option AddressReport
  | .object members => ofMembers? members
  | .array items => ofItems? items
  | _ => none

end AddressReport

namespace PrefixReport

/-- The entry with both its fields. -/
def toJson (r : PrefixReport) : Json :=
  .object [
    member FieldName.octets (ofBytes r.octets),
    member FieldName.length (ofByte r.length)]

/-- An entry from its fields by name. -/
def ofMembers? (members : Members) : Option PrefixReport := do
  guard (namesAreTexts members)
  let octets ← required? FieldName.octets (list? byte?) members
  let length ← required? FieldName.length byte? members
  return { octets, length }

/-- An entry from its fields in order. -/
def ofItems? : List Json → Option PrefixReport
  | [octets, length] => do
    let octets ← list? byte? octets
    let length ← byte? length
    return { octets, length }
  | _ => none

/-- An entry in either form. -/
def ofJson? : Json → Option PrefixReport
  | .object members => ofMembers? members
  | .array items => ofItems? items
  | _ => none

end PrefixReport

/-! ## Messages -/

namespace DaemonMessage

/-- The message as it is written. -/
def toJson : DaemonMessage → Json
  | .addresses snapshot =>
    .object [member FieldName.addresses (.array (snapshot.map AddressReport.toJson))]
  | .prefixes snapshot =>
    .object [member FieldName.prefixes (.array (snapshot.map PrefixReport.toJson))]
  | .died => .string (some FieldName.died)

/-- The message of an object with this one member. -/
def ofMember? (name : String) (value : Json) : Option DaemonMessage :=
  if name = FieldName.addresses then .addresses <$> list? AddressReport.ofJson? value
  else if name = FieldName.prefixes then .prefixes <$> list? PrefixReport.ofJson? value
  else if name = FieldName.died then
    match value with
    | .null => some .died
    | _ => none
  else none

/-- The message that a value stands for, if it stands for one. -/
def ofJson? : Json → Option DaemonMessage
  | .string (some word) => if word = FieldName.died then some .died else none
  | .object [(some name, value)] => ofMember? name value
  | _ => none

/-- The message that a text stands for, if it stands for one. -/
def ofText? (text : String) : Option DaemonMessage :=
  Json.ofText? text >>= ofJson?

/-- The message in writing. -/
def text (m : DaemonMessage) : String :=
  m.toJson.text

end DaemonMessage
end MeshLink
