set_option autoImplicit false

/-! # Input of the daemon

The input is read line by line. Lines end with a line feed, before which one carriage return is
dropped; a last line without a line feed counts. A line that is not UTF-8 ends the input. -/

namespace MeshLink

/-- What the daemon waits for. -/
inductive InputEvent
  | line (text : String)
  | unreadable
  | endOfInput
  | interrupt
deriving DecidableEq

namespace InputEvent

/-- Whether the event ends the input. -/
def isFinal : InputEvent → Bool
  | .line _ => false
  | _ => true

/-- Splits octets into lines, each with whether a line feed ended it; there is no line after the
    last line feed. -/
def splitLines (bs : List UInt8) : List (List UInt8 × Bool) :=
  go [] bs
where
  go (line : List UInt8) : List UInt8 → List (List UInt8 × Bool)
    | [] => if line.isEmpty then [] else [(line.reverse, false)]
    | b :: bs => if b = 0x0a then (line.reverse, true) :: go [] bs else go (b :: line) bs

/-- A line without the carriage return at its end. -/
def dropReturn (bs : List UInt8) : List UInt8 :=
  if bs.getLast? = some 0x0d then bs.dropLast else bs

/-- A line as an event. Only a line that was ended by a line feed loses its carriage return. -/
def ofLine : List UInt8 × Bool → InputEvent
  | (bs, ended) =>
    match String.fromUTF8? ⟨(if ended then dropReturn bs else bs).toArray⟩ with
    | some text => .line text
    | none => .unreadable

/-- The events of an input that ends by itself. -/
def ofBytes (bs : List UInt8) : List InputEvent :=
  (splitLines bs).map ofLine ++ [.endOfInput]

end InputEvent
end MeshLink
