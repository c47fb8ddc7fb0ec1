set_option autoImplicit false

/-! # JSON tokens

A JSON text is a sequence of tokens with blanks between them. A string token holds the text that
it names, or none when one of its escapes names half of a surrogate pair without the other half:
such a string is well formed but names no text. A number keeps its sign and its whole part, and as
written what comes after. -/

namespace MeshLink.Json

/-- A number as it is written: its sign, the value of its whole part, and the characters behind
    that. -/
structure Numeral where
  negative : Bool
  whole : Nat
  tail : List Char
deriving DecidableEq

/-- The number that is written `0`. -/
def Numeral.zero : Numeral :=
  ⟨false, 0, []⟩

/-- The text a string names, if it names one. -/
abbrev Text := Option String

/-- The words of JSON. -/
inductive Token
  | beginArray | endArray | beginObject | endObject | colon | comma | null
  | bool (value : Bool)
  | number (value : Numeral)
  | string (value : Text)
deriving DecidableEq

/-- The characters that may stand between tokens. -/
def isBlank (c : Char) : Bool :=
  c == ' ' || c == '\t' || c == '\n' || c == '\r'

/-- The characters below a space have to be escaped in strings. -/
def isControl (c : Char) : Bool :=
  c.toNat < 0x20

/-! ## Writing tokens -/

/-- The last hexadecimal digit of a number. -/
def hexDigit (n : Nat) : Char :=
  Nat.digitChar (n % 16)

/-- A character inside a string: quotes, backslashes and control characters are escaped. -/
def escaped (c : Char) : List Char :=
  if c = '"' then ['\\', '"']
  else if c = '\\' then ['\\', '\\']
  else if c = '\n' then ['\\', 'n']
  else if c = '\r' then ['\\', 'r']
  else if c = '\t' then ['\\', 't']
  else if c = '\x08' then ['\\', 'b']
  else if c = '\x0c' then ['\\', 'f']
  else if isControl c then ['\\', 'u', '0', '0', hexDigit (c.toNat / 16), hexDigit c.toNat]
  else [c]

/-- The content of a string that names no text. -/
def halfPair : List Char :=
  ['\\', 'u', 'd', '8', '0', '0']

/-- The characters of a number. -/
def Numeral.text (n : Numeral) : List Char :=
  (if n.negative then ['-'] else []) ++ Nat.toDigits 10 n.whole ++ n.tail

/-- The characters of a token. -/
def Token.text : Token → List Char
  | .beginArray => ['[']
  | .endArray => [']']
  | .beginObject => ['\x7b']
  | .endObject => ['\x7d']
  | .colon => [':']
  | .comma => [',']
  | .null => ['n', 'u', 'l', 'l']
  | .bool true => ['t', 'r', 'u', 'e']
  | .bool false => ['f', 'a', 'l', 's', 'e']
  | .number n => n.text
  | .string (some s) => '"' :: s.toList.flatMap escaped ++ ['"']
  | .string none => '"' :: halfPair ++ ['"']

/-- Tokens one behind the other, without blanks. -/
def render (ts : List Token) : List Char :=
  ts.flatMap Token.text

end MeshLink.Json
