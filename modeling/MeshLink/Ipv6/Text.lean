import MeshLink.Ipv6.Basic
set_option autoImplicit false

/-! # The text of an IPv6 address

Written form: eight lowercase hexadecimal groups without leading zeros, joined by colons, where the
longest run of at least two zero groups (the first such run on a tie) is written as `::`. An
address in `::ffff:0:0/96` carries an IPv4 address and is written `::ffff:1.2.3.4`.

Read form: one to four hexadecimal digits a group in either case, at most one `::` standing for at
least one zero group, and a dotted IPv4 address in place of the last two groups. -/

namespace MeshLink.Ipv6

/-! ## Writing -/

/-- A group in hexadecimal, without leading zeros. -/
def groupText (g : UInt16) : String :=
  String.ofList (Nat.toDigits 16 g.toNat)

/-- Groups with colons between them. -/
def joinGroups (gs : List UInt16) : String :=
  ":".intercalate (gs.map groupText)

/-- How many zero groups there are at the start. -/
def zeroRun (gs : List UInt16) : Nat :=
  (gs.takeWhile (· == 0)).length

/-- The longest run of zero groups as its start and length; the first one on a tie. -/
def longestZeroRun (gs : List UInt16) : Nat × Nat :=
  go 0 gs
where
  go (i : Nat) : List UInt16 → Nat × Nat
    | [] => (i, 0)
    | g :: rest =>
      let later := go (i + 1) rest
      let here := zeroRun (g :: rest)
      if later.2 > here then later else (i, here)

/-- Octets in decimal with dots between them. -/
def dottedText (octets : List UInt8) : String :=
  ".".intercalate (octets.map fun b => toString b.toNat)

/-- Whether the address carries an IPv4 address. -/
def isMapped (a : Ipv6) : Bool :=
  a.octets.take 12 == List.replicate 10 0 ++ [0xff, 0xff]

/-- Eight groups with the longest run of two or more zeros as `::`. -/
def compressedText (gs : List UInt16) : String :=
  let (start, length) := longestZeroRun gs
  if length > 1 then joinGroups (gs.take start) ++ "::" ++ joinGroups (gs.drop (start + length))
  else joinGroups gs

/-- The address as it is written. -/
def text (a : Ipv6) : String :=
  if a.isMapped then "::ffff:" ++ dottedText (a.octets.drop 12) else compressedText a.groups

/-! ## Reading -/

/-- The value of a hexadecimal digit of either case. -/
def hexValue? (c : Char) : Option Nat :=
  if '0' ≤ c ∧ c ≤ '9' then some (c.toNat - '0'.toNat)
  else if 'a' ≤ c ∧ c ≤ 'f' then some (c.toNat - 'a'.toNat + 10)
  else if 'A' ≤ c ∧ c ≤ 'F' then some (c.toNat - 'A'.toNat + 10)
  else none

/-- Digits of a base, most significant first; refused when one is not a digit. -/
def digitsValue? (base : Nat) (digit? : Char → Option Nat) (cs : List Char) : Option Nat :=
  cs.foldlM (fun n c => (digit? c).map (n * base + ·)) 0

/-- The value of a decimal digit. -/
def decimalValue? (c : Char) : Option Nat :=
  if '0' ≤ c ∧ c ≤ '9' then some (c.toNat - '0'.toNat) else none

/-- One to four hexadecimal digits. -/
def group? (cs : List Char) : Option UInt16 :=
  if cs.isEmpty || cs.length > 4 then none
  else (digitsValue? 16 hexValue? cs).map Nat.toUInt16

/-- A decimal octet: at most 255, without leading zeros. -/
def dottedOctet? (cs : List Char) : Option UInt8 := do
  if cs.isEmpty || cs.length > 3 || (cs.length > 1 && cs.head? == some '0') then none
  let n ← digitsValue? 10 decimalValue? cs
  if n < 256 then some n.toUInt8 else none

/-- A dotted IPv4 address as two groups. -/
def dottedGroups? (cs : List Char) : Option (List UInt16) :=
  match (cs.splitOn '.').mapM dottedOctet? with
  | some [a, b, c, d] => some (groups.go [a, b, c, d])
  | _ => none

/-- Groups separated by colons; where `last` holds, the last part may be a dotted IPv4 address.
    An empty text has no groups. -/
def groupList? (last : Bool) (cs : List Char) : Option (List UInt16) :=
  if cs.isEmpty then some [] else go (cs.splitOn ':')
where
  go : List (List Char) → Option (List UInt16)
    | [] => some []
    | [part] =>
      match group? part with
      | some g => some [g]
      | none => if last then dottedGroups? part else none
    | part :: rest => do
      let g ← group? part
      let gs ← go rest
      return g :: gs

/-- Splits a text at its first `::`. -/
def splitGap : List Char → Option (List Char × List Char)
  | ':' :: ':' :: rest => some ([], rest)
  | c :: rest => (splitGap rest).map fun (before, after) => (c :: before, after)
  | [] => none

/-- The address of eight groups. -/
def ofGroups? (gs : List UInt16) : Option Ipv6 :=
  ofOctets? (octetsOfGroups gs)

/-- The address that a text stands for, if it stands for one. -/
def ofText? (text : String) : Option Ipv6 :=
  let cs := text.toList
  match splitGap cs with
  | none => groupList? true cs >>= ofGroups?
  | some (before, after) => do
    let head ← groupList? false before
    let tail ← groupList? true after
    if head.length + tail.length > 7 then none
    ofGroups? (head ++ List.replicate (8 - head.length - tail.length) 0 ++ tail)

end MeshLink.Ipv6
