import MeshLink.Json.Token
set_option autoImplicit false

/-! # From characters to tokens

A machine that reads one character at a time and stops at the first that cannot continue a JSON
token. A number ends at the first character that cannot belong to it, which is then read as the
start of what follows. Reading is one fold over the characters, so a text of any depth is read in
the same way. -/

namespace MeshLink.Json

/-! ## Strings -/

/-- A string that is being read: its characters, the latest first; whether all surrogates so far
    were paired; and the first half of a pair whose second half has to come next. -/
structure OpenString where
  chars : List Char
  paired : Bool
  pending : Option Nat
deriving DecidableEq

namespace OpenString

/-- A string of which nothing has been read. -/
def empty : OpenString :=
  ⟨[], true, none⟩

/-- Takes a character; a first half that is waiting stays alone. -/
def push (s : OpenString) (c : Char) : OpenString :=
  ⟨c :: s.chars, s.paired && s.pending.isNone, none⟩

/-- Whether a code unit is the first half of a surrogate pair. -/
def isFirstHalf (unit : Nat) : Bool :=
  0xd800 ≤ unit && unit < 0xdc00

/-- Whether a code unit is the second half of a surrogate pair. -/
def isSecondHalf (unit : Nat) : Bool :=
  0xdc00 ≤ unit && unit < 0xe000

/-- The character that a surrogate pair stands for. -/
def ofPair (first second : Nat) : Char :=
  Char.ofNat (0x10000 + (first - 0xd800) * 0x400 + (second - 0xdc00))

/-- Takes a code unit that was written as an escape. -/
def pushUnit (s : OpenString) (unit : Nat) : OpenString :=
  if isFirstHalf unit then
    { s with paired := s.paired && s.pending.isNone, pending := some unit }
  else if isSecondHalf unit then
    match s.pending with
    | some first => ⟨ofPair first unit :: s.chars, s.paired, none⟩
    | none => { s with paired := false }
  else s.push (Char.ofNat unit)

/-- The text of a string that ends here. -/
def close (s : OpenString) : Text :=
  if s.paired && s.pending.isNone then some (String.ofList s.chars.reverse) else none

end OpenString

/-- The character that a one-letter escape stands for. -/
def unescaped? : Char → Option Char
  | '"' => some '"'
  | '\\' => some '\\'
  | '/' => some '/'
  | 'b' => some '\x08'
  | 'f' => some '\x0c'
  | 'n' => some '\n'
  | 'r' => some '\r'
  | 't' => some '\t'
  | _ => none

/-- The value of a decimal digit. -/
def digit? (c : Char) : Option Nat :=
  if '0' ≤ c ∧ c ≤ '9' then some (c.toNat - '0'.toNat) else none

/-- The value of a hexadecimal digit of either case. -/
def hexValue? (c : Char) : Option Nat :=
  if 'a' ≤ c ∧ c ≤ 'f' then some (c.toNat - 'a'.toNat + 10)
  else if 'A' ≤ c ∧ c ≤ 'F' then some (c.toNat - 'A'.toNat + 10)
  else digit? c

/-! ## Numbers -/

/-- The part of a number that was read last. -/
inductive NumberPart
  | sign
  /-- A whole part of zero, which no digit may follow. -/
  | zero
  | whole
  | point
  | fraction
  | mark
  | markSign
  | exponent
deriving DecidableEq

namespace NumberPart

/-- Whether a number may end behind this part. -/
def isComplete : NumberPart → Bool
  | .zero | .whole | .fraction | .exponent => true
  | .sign | .point | .mark | .markSign => false

/-- The part that a digit leads to, told by whether it is zero. -/
def onDigit : NumberPart → Bool → Option NumberPart
  | .sign, isZero => some (if isZero then .zero else .whole)
  | .zero, _ => none
  | .whole, _ => some .whole
  | .point, _ | .fraction, _ => some .fraction
  | .mark, _ | .markSign, _ | .exponent, _ => some .exponent

/-- The part that a point, an exponent mark or a sign leads to. -/
def onMark : NumberPart → Char → Option NumberPart
  | .zero, '.' | .whole, '.' => some .point
  | .zero, 'e' | .whole, 'e' | .fraction, 'e' => some .mark
  | .zero, 'E' | .whole, 'E' | .fraction, 'E' => some .mark
  | .mark, '+' | .mark, '-' => some .markSign
  | _, _ => none

end NumberPart

/-- A number that is being read; its tail has the latest character first. -/
structure OpenNumber where
  part : NumberPart
  negative : Bool
  whole : Nat
  tail : List Char
deriving DecidableEq

namespace OpenNumber

/-- Takes a character, if the number can go on with it. -/
def push? (n : OpenNumber) (c : Char) : Option OpenNumber :=
  match digit? c with
  | some d =>
    (n.part.onDigit (d == 0)).map fun part =>
      match part with
      | .zero | .whole => { n with part := part, whole := n.whole * 10 + d }
      | _ => { n with part := part, tail := c :: n.tail }
  | none => (n.part.onMark c).map fun part => { n with part := part, tail := c :: n.tail }

/-- The number that ends here, if it can. -/
def close? (n : OpenNumber) : Option Numeral :=
  if n.part.isComplete then some ⟨n.negative, n.whole, n.tail.reverse⟩ else none

end OpenNumber

/-! ## The machine -/

/-- What is being read. -/
inductive LexMode
  | between
  /-- A word, of which some letters are left. -/
  | word (left : List Char) (token : Token)
  | number (n : OpenNumber)
  | string (s : OpenString)
  | escape (s : OpenString)
  /-- A code unit in hexadecimal, of which some digits are left. -/
  | unit (s : OpenString) (left : Nat) (value : Nat)
deriving DecidableEq

/-- The tokens read so far, the latest first, and what is being read. -/
structure Lexer where
  tokens : List Token
  mode : LexMode
deriving DecidableEq

namespace Lexer

/-- A lexer that has read nothing. -/
def new : Lexer :=
  ⟨[], .between⟩

/-- Has read a token as a whole. -/
def emit (l : Lexer) (t : Token) : Lexer :=
  ⟨t :: l.tokens, .between⟩

/-- Goes on inside a token. -/
def enter (l : Lexer) (mode : LexMode) : Option Lexer :=
  some { l with mode := mode }

/-- Takes a character between two tokens. -/
def start? (l : Lexer) (c : Char) : Option Lexer :=
  if isBlank c then some l
  else
    match c with
    | '[' => some (l.emit .beginArray)
    | ']' => some (l.emit .endArray)
    | '\x7b' => some (l.emit .beginObject)
    | '\x7d' => some (l.emit .endObject)
    | ':' => some (l.emit .colon)
    | ',' => some (l.emit .comma)
    | 'n' => l.enter (.word ['u', 'l', 'l'] .null)
    | 't' => l.enter (.word ['r', 'u', 'e'] (.bool true))
    | 'f' => l.enter (.word ['a', 'l', 's', 'e'] (.bool false))
    | '"' => l.enter (.string .empty)
    | '-' => l.enter (.number ⟨.sign, true, 0, []⟩)
    | c => (OpenNumber.push? ⟨.sign, false, 0, []⟩ c).map fun n => { l with mode := .number n }

/-- Takes a character of a word, of which these letters are left. -/
def word? (l : Lexer) (c : Char) (token : Token) : List Char → Option Lexer
  | [] => none
  | [last] => if c = last then some (l.emit token) else none
  | next :: left => if c = next then l.enter (.word left token) else none

/-- Takes a character of a string. -/
def string? (l : Lexer) (s : OpenString) (c : Char) : Option Lexer :=
  if c = '"' then some (l.emit (.string s.close))
  else if c = '\\' then l.enter (.escape s)
  else if isControl c then none
  else l.enter (.string (s.push c))

/-- Takes the character behind a backslash. -/
def escape? (l : Lexer) (s : OpenString) (c : Char) : Option Lexer :=
  if c = 'u' then l.enter (.unit s 4 0)
  else (unescaped? c).map fun d => { l with mode := .string (s.push d) }

/-- Takes a digit of a code unit. -/
def unit? (l : Lexer) (s : OpenString) (left value : Nat) (c : Char) : Option Lexer :=
  (hexValue? c).map fun d =>
    let value := value * 16 + d
    { l with mode := if left ≤ 1 then .string (s.pushUnit value) else .unit s (left - 1) value }

/-- Takes one character. -/
def step (l : Lexer) (c : Char) : Option Lexer :=
  match l.mode with
  | .between => l.start? c
  | .word left token => l.word? c token left
  | .number n =>
    match n.push? c with
    | some n => l.enter (.number n)
    | none => n.close? >>= fun value => (l.emit (.number value)).start? c
  | .string s => l.string? s c
  | .escape s => l.escape? s c
  | .unit s left value => l.unit? s left value c

/-- The tokens of a text that ends here. -/
def finish (l : Lexer) : Option (List Token) :=
  match l.mode with
  | .between => some l.tokens.reverse
  | .number n => n.close?.map fun value => (Token.number value :: l.tokens).reverse
  | _ => none

end Lexer

/-- The tokens of a text, if it consists of tokens. -/
def lex (cs : List Char) : Option (List Token) :=
  cs.foldlM Lexer.step .new >>= Lexer.finish

end MeshLink.Json
