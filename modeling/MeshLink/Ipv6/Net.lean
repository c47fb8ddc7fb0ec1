import MeshLink.Ipv6.Text
set_option autoImplicit false

/-! # Networks

A network is a base address and a length. `Net.of` keeps the first bits of an address and clears
the others (`Ipv6.bit_mask`), so that two addresses give the same network exactly when they agree
on those bits. -/

namespace MeshLink

namespace Ipv6

/-- The octet whose first `n` bits are set; all of them from eight on. -/
def highBits (n : Nat) : UInt8 :=
  UInt8.ofNat (0x100 - Nat.pow 2 (8 - n))

theorem highBits_of_le {n : Nat} (h : 8 ≤ n) : highBits n = 0xff := by
  rw [highBits, show 8 - n = 0 by omega]
  rfl

/-- Bit `j` of an octet, counted from its most significant one, is set in the first `n` bits
    exactly when it is one of them. -/
theorem testBit_highBits (n : Nat) {j : Nat} (hj : j < 8) :
    (highBits n).toNat.testBit (7 - j) = decide (j < n) := by
  by_cases h : 8 ≤ n
  · have small : ∀ j < 8, (0xff : UInt8).toNat.testBit (7 - j) = true := by decide
    rw [highBits_of_le h, small j hj]
    exact (decide_eq_true (by omega)).symm
  · have small : ∀ n < 8, ∀ j < 8, (highBits n).toNat.testBit (7 - j) = decide (j < n) := by
      decide
    exact small n (by omega) j hj

/-- Octets of which all but the first `n` bits are cleared. -/
def maskOctets (n : Nat) : List UInt8 → List UInt8
  | [] => []
  | b :: bs => (b &&& highBits n) :: maskOctets (n - 8) bs

@[simp] theorem length_maskOctets (n : Nat) (bs : List UInt8) :
    (maskOctets n bs).length = bs.length := by
  induction bs generalizing n with
  | nil => rfl
  | cons b bs ih => simp [maskOctets, ih]

theorem getD_maskOctets (n : Nat) (bs : List UInt8) (i : Nat) :
    (maskOctets n bs).getD i 0 = bs.getD i 0 &&& highBits (n - 8 * i) := by
  induction bs generalizing n i with
  | nil => simp [maskOctets]
  | cons b bs ih =>
    cases i with
    | zero => simp [maskOctets]
    | succ i =>
      have step : n - 8 - 8 * i = n - 8 * (i + 1) := by omega
      simpa [maskOctets, step] using ih (n - 8) i

/-- The address with all but the first `n` bits cleared. -/
def mask (a : Ipv6) (n : Nat) : Ipv6 :=
  ⟨maskOctets n a.octets, by rw [length_maskOctets, a.length_octets]⟩

/-- Masking keeps the first `n` bits and clears the others. -/
theorem bit_mask (a : Ipv6) (n i : Nat) : (a.mask n).bit i = (decide (i < n) && a.bit i) := by
  have hj : i % 8 < 8 := by omega
  have place : decide (i % 8 < n - 8 * (i / 8)) = decide (i < n) := by
    congr 1
    exact propext (by omega)
  rw [bit, bit, octet, octet, mask, getD_maskOctets, UInt8.toNat_and, Nat.testBit_and,
    testBit_highBits _ hj, place, Bool.and_comm]

end Ipv6

/-- An IPv6 network; `Net.of` builds the canonical one, whose bits past the length are zero. -/
structure Net where
  base : Ipv6
  length : UInt8
deriving DecidableEq

namespace Net

/-- The length of a network that is a single address. -/
def maxLength : UInt8 := 128

/-- The network of the first `length` bits of an address; lengths above 128 count as 128. -/
def of (a : Ipv6) (length : UInt8) : Net :=
  let length := min length maxLength
  ⟨a.mask length.toNat, length⟩

/-- The base address and the length. -/
def text (n : Net) : String :=
  n.base.text ++ "/" ++ toString n.length.toNat

end Net
end MeshLink
