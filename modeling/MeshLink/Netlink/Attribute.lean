import MeshLink.Netlink.Word
set_option autoImplicit false

/-! # Attributes

The body of an address message is a sequence of attributes: a 16-bit length that counts the header
and the payload, a 16-bit kind, the payload, and padding to a multiple of four octets. A reader
walks them by their lengths and stops at the first one that does not fit into what is left. -/

namespace MeshLink.Netlink

/-- An attribute of an address message. -/
structure Attribute where
  kind : UInt16
  payload : List UInt8
deriving DecidableEq

namespace Attribute

/-- The kind without its two top bits, which say how the payload is laid out and not what it is. -/
def plainKind (a : Attribute) : UInt16 :=
  a.kind &&& 0x3fff

/-- The length of what stands in front of the payload. -/
def headerLength : Nat := 4

/-- The next multiple of four. -/
def align (n : Nat) : Nat :=
  (n + 3) / 4 * 4

theorem le_align (n : Nat) : n ≤ align n := by
  unfold align; omega

/-- The octets of an attribute, with zero padding. -/
def bytes (a : Attribute) : List UInt8 :=
  let length := headerLength + a.payload.length
  bytes16 (UInt16.ofNat length) ++ bytes16 a.kind ++ a.payload ++
    List.replicate (align length - length) 0

/-- The attributes at the start of a list of octets, and the octets at which the walk stopped. -/
def walk : List UInt8 → List Attribute × List UInt8
  | l₀ :: l₁ :: k₀ :: k₁ :: body =>
    let length := l₀.toNat + 0x100 * l₁.toNat
    let kind := UInt16.ofNat (k₀.toNat + 0x100 * k₁.toNat)
    if length < headerLength ∨ headerLength + body.length < length then
      ([], l₀ :: l₁ :: k₀ :: k₁ :: body)
    else
      let (attributes, rest) := walk (body.drop (align length - headerLength))
      (⟨kind, body.take (length - headerLength)⟩ :: attributes, rest)
  | rest => ([], rest)
termination_by bs => bs.length
decreasing_by simp only [List.length_drop, List.length_cons]; omega

/-- The attributes up to the first that does not fit. -/
def scan (bs : List UInt8) : List Attribute :=
  (walk bs).1

end Attribute
end MeshLink.Netlink
