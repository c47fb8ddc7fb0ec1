set_option autoImplicit false

/-! # Octets in hexadecimal

Two lowercase digits an octet, the high one first. -/

namespace MeshLink.Hex

/-- The two digits of an octet. -/
def octet (b : UInt8) : List Char :=
  [Nat.digitChar (b.toNat / 16), Nat.digitChar (b.toNat % 16)]

/-- Octets in hexadecimal. -/
def encode (bs : List UInt8) : String :=
  String.ofList (bs.flatMap octet)

/-- The value of a lowercase digit. -/
def digit? (c : Char) : Option Nat :=
  if '0' ≤ c ∧ c ≤ '9' then some (c.toNat - '0'.toNat)
  else if 'a' ≤ c ∧ c ≤ 'f' then some (c.toNat - 'a'.toNat + 10)
  else none

/-- Octets from an even number of digits. -/
def decodeChars? : List Char → Option (List UInt8)
  | [] => some []
  | hi :: lo :: rest => do
    let h ← digit? hi
    let l ← digit? lo
    let bs ← decodeChars? rest
    return UInt8.ofNat (h * 16 + l) :: bs
  | [_] => none

/-- The octets that a text stands for, if it stands for some. -/
def decode? (text : String) : Option (List UInt8) :=
  decodeChars? text.toList

end MeshLink.Hex
