import Mathlib.Data.Nat.Bitwise
import MeshLink.Controller.Basic
set_option autoImplicit false

/-! # Networks are canonical

A network is made in two ways: from an address on the link and from a report about the mesh, whose
octets may stop early. Both end in `Net.of`, which keeps the first bits and clears the others. An
address is known by its bits (`Ipv6.ext_bit`), so two networks are the same exactly when they have
the same length and their sources agree on that many bits (`Net.of_eq_of_iff`), and whatever stands
behind those bits makes no difference. Routes are compared by value, and a route to the network of
an address is the route to a reported one under the same condition. -/

namespace MeshLink

/-! ## Bits of octets -/

/-- Bit `i` of a list of octets, counted from the most significant bit of the first one. An octet
    that is missing is zero. -/
def bitAt (octets : List UInt8) (i : Nat) : Bool :=
  (octets.getD (i / 8) 0).toNat.testBit (7 - i % 8)

theorem UInt8.ext_testBit {x y : UInt8}
    (same : ∀ j < 8, x.toNat.testBit (7 - j) = y.toNat.testBit (7 - j)) : x = y := by
  refine UInt8.toNat_inj.1 (Nat.eq_of_testBit_eq fun k => ?_)
  by_cases inside : k < 8
  · have at_k := same (7 - k) (by omega)
    rwa [show 7 - (7 - k) = k by omega] at at_k
  · have above : 2 ^ 8 ≤ 2 ^ k := Nat.pow_le_pow_right (by decide) (Nat.le_of_not_lt inside)
    rw [Nat.testBit_eq_false_of_lt (Nat.lt_of_lt_of_le x.toNat_lt above),
      Nat.testBit_eq_false_of_lt (Nat.lt_of_lt_of_le y.toNat_lt above)]

theorem bitAt_take (octets : List UInt8) {k i : Nat} (inside : i < 8 * k) :
    bitAt (octets.take k) i = bitAt octets i := by
  have first : i / 8 < k := by omega
  rw [bitAt, bitAt, List.getD_eq_getElem?_getD, List.getElem?_take_of_lt first,
    ← List.getD_eq_getElem?_getD]

namespace Ipv6

theorem bit_eq (a : Ipv6) (i : Nat) : a.bit i = bitAt a.octets i := rfl

theorem ext_bit {a b : Ipv6} (same : ∀ i < 128, a.bit i = b.bit i) : a = b := by
  refine ext_octets (List.ext_getElem (by rw [a.length_octets, b.length_octets]) ?_)
  intro i ha hb
  have inside : i < 16 := a.length_octets ▸ ha
  refine UInt8.ext_testBit fun j hj => ?_
  have place := same (8 * i + j) (by omega)
  rw [bit_eq, bit_eq, bitAt, bitAt, show (8 * i + j) / 8 = i by omega,
    show (8 * i + j) % 8 = j by omega] at place
  rwa [List.getD_eq_getElem _ _ ha, List.getD_eq_getElem _ _ hb] at place

/-- Padding adds nothing but zeros. -/
theorem bit_padded {octets : List UInt8} (short : octets.length ≤ 16) (i : Nat) :
    (padded octets).bit i = bitAt octets i := by
  rw [bit_eq, octets_padded short, bitAt, bitAt]
  by_cases inside : i / 8 < octets.length
  · rw [List.getD_append _ _ _ _ inside]
  · have behind := Nat.le_of_not_lt inside
    rw [List.getD_append_right _ _ _ _ behind, List.getD_eq_default _ _ behind]
    congr 2
    rw [List.getD_eq_getElem?_getD, List.getElem?_replicate]
    split <;> rfl

end Ipv6

/-! ## Networks -/

namespace Net

theorem toNat_min_maxLength (n : UInt8) : (min n maxLength).toNat = min n.toNat 128 := by
  have bound : n ≤ maxLength ↔ n.toNat ≤ 128 := UInt8.le_iff_toNat_le
  rw [UInt8.min_def]
  split
  · next short => exact (Nat.min_eq_left (bound.1 short)).symm
  · next long => exact (Nat.min_eq_right (Nat.le_of_not_le (mt bound.2 long))).symm

theorem bit_of (a : Ipv6) (n : UInt8) (i : Nat) :
    (of a n).base.bit i = (decide (i < min n.toNat 128) && a.bit i) := by
  rw [← toNat_min_maxLength]
  exact a.bit_mask _ i

theorem toNat_length_of (a : Ipv6) (n : UInt8) : (of a n).length.toNat = min n.toNat 128 :=
  toNat_min_maxLength n

theorem length_of {n : UInt8} (short : n ≤ maxLength) (a : Ipv6) : (of a n).length = n := by
  have bound : n.toNat ≤ 128 := UInt8.le_iff_toNat_le.1 short
  rw [← UInt8.toNat_inj, toNat_length_of, Nat.min_eq_left bound]

/-- Two networks are the same exactly when their lengths are and the bits that count. -/
theorem of_eq_of_iff {a b : Ipv6} {m n : UInt8} :
    of a m = of b n ↔
      min m.toNat 128 = min n.toNat 128 ∧ ∀ i < min m.toNat 128, a.bit i = b.bit i := by
  constructor
  · intro same
    have lengths : min m.toNat 128 = min n.toNat 128 := by
      rw [← toNat_length_of a, ← toNat_length_of b, same]
    refine ⟨lengths, fun i inside => ?_⟩
    have bits := congrArg (·.base.bit i) same
    simpa only [bit_of, ← lengths, decide_eq_true inside, Bool.true_and] using bits
  · rintro ⟨lengths, bits⟩
    have length : (of a m).length = (of b n).length := by
      rw [← UInt8.toNat_inj, toNat_length_of, toNat_length_of, lengths]
    have base : (of a m).base = (of b n).base := Ipv6.ext_bit fun i _ => by
      rw [bit_of, bit_of, ← lengths]
      by_cases inside : i < min m.toNat 128
      · rw [bits i inside]
      · rw [decide_eq_false inside, Bool.false_and, Bool.false_and]
    exact congrArg₂ Net.mk base length

theorem of_base (a : Ipv6) (n : UInt8) : of (of a n).base (of a n).length = of a n := by
  rw [of_eq_of_iff, toNat_length_of, Nat.min_eq_left (Nat.min_le_right ..)]
  refine ⟨rfl, fun i inside => ?_⟩
  rw [bit_of, decide_eq_true inside, Bool.true_and]

end Net

/-! ## Reported networks -/

namespace PrefixReport

/-- The network has the length and the first bits of the report, and no other bits. -/
structure Describes (r : PrefixReport) (n : Net) : Prop where
  length : n.length = r.length
  kept : ∀ i < r.length.toNat, n.base.bit i = bitAt r.octets i
  cleared : ∀ i, r.length.toNat ≤ i → n.base.bit i = false

variable {r : PrefixReport} {octets : List UInt8} {length : UInt8}

theorem net_eq_of (few : r.octets.length ≤ 16) (short : r.length ≤ Net.maxLength) :
    r.net = .ok (Net.of (.padded r.octets) r.length) := by
  rw [net, if_neg (Nat.not_lt.2 few), if_neg (UInt8.not_lt.2 short)]

theorem of_net_eq_ok {n : Net} (reported : r.net = .ok n) :
    r.octets.length ≤ 16 ∧ r.length ≤ Net.maxLength := by
  unfold net at reported
  split at reported
  · cases reported
  · next few =>
      split at reported
      · cases reported
      · next short => exact ⟨Nat.not_lt.1 few, UInt8.not_lt.1 short⟩

theorem describes_of (few : r.octets.length ≤ 16) (short : r.length ≤ Net.maxLength) :
    r.Describes (Net.of (.padded r.octets) r.length) := by
  have bound : min r.length.toNat 128 = r.length.toNat :=
    Nat.min_eq_left (UInt8.le_iff_toNat_le.1 short)
  refine ⟨Net.length_of short _, fun i inside => ?_, fun i outside => ?_⟩
  · rw [Net.bit_of, bound, decide_eq_true inside, Bool.true_and, Ipv6.bit_padded few]
  · rw [Net.bit_of, bound, decide_eq_false (Nat.not_lt.2 outside), Bool.false_and]

/-- Two reports of one length are about the same network exactly if they agree on its bits. -/
theorem net_eq_net_iff (short : length ≤ Net.maxLength) (octets' : List UInt8)
    (few : octets.length ≤ 16) (few' : octets'.length ≤ 16) :
    net ⟨octets', length⟩ = net ⟨octets, length⟩ ↔
      ∀ i < length.toNat, bitAt octets' i = bitAt octets i := by
  have bound : min length.toNat 128 = length.toNat :=
    Nat.min_eq_left (UInt8.le_iff_toNat_le.1 short)
  rw [net_eq_of (r := ⟨octets', length⟩) few' short, net_eq_of (r := ⟨octets, length⟩) few short,
    Except.ok.injEq, Net.of_eq_of_iff, bound]
  simp only [Ipv6.bit_padded few, Ipv6.bit_padded few', true_and]

/-- Only the octets that a network reaches into can make a difference. -/
theorem bitAt_eq_of_take {octets' : List UInt8} {n : Nat}
    (same : octets'.take ((n + 7) / 8) = octets.take ((n + 7) / 8)) {i : Nat} (inside : i < n) :
    bitAt octets' i = bitAt octets i := by
  have within : i < 8 * ((n + 7) / 8) := by omega
  rw [← bitAt_take octets' within, same, bitAt_take octets within]

end PrefixReport

/-- **Networks are canonical, whichever way they are made.** A report with at most sixteen octets
    and a length of at most 128 is about a network: that of the padded octets. It has the bits of
    the report up to its length and no others, and reported by its own base it is the same again.
    Other octets are about the same network exactly if they agree on these bits, so octets behind
    the last one that it reaches into do not matter. Networks of addresses, with any lengths, and
    the routes to them are the same exactly if the bits that count are. -/
theorem networks_are_canonical :
    (∀ r : PrefixReport, r.octets.length ≤ 16 → r.length ≤ Net.maxLength →
      ∃ n : Net, r.net = .ok n ∧ r.Describes n ∧ n = Net.of (.padded r.octets) r.length ∧
        PrefixReport.net ⟨n.base.octets, r.length⟩ = .ok n ∧
        ∀ octets : List UInt8, octets.length ≤ 16 →
          (octets.take ((r.length.toNat + 7) / 8) = r.octets.take ((r.length.toNat + 7) / 8) →
            PrefixReport.net ⟨octets, r.length⟩ = .ok n) ∧
          (PrefixReport.net ⟨octets, r.length⟩ = .ok n ↔
            ∀ i < r.length.toNat, bitAt octets i = bitAt r.octets i)) ∧
    (∀ (a b : Ipv6) (m n : UInt8), Net.of a m = Net.of b n ↔
      min m.toNat 128 = min n.toNat 128 ∧ ∀ i < min m.toNat 128, a.bit i = b.bit i) ∧
    ∀ (c : Controller) (a : LinkAddress) (r : PrefixReport) (n : Net), r.net = .ok n →
      (c.routeTo a.network = c.routeTo n ↔ min a.length.toNat 128 = r.length.toNat ∧
        ∀ i < r.length.toNat, a.address.bit i = bitAt r.octets i) := by
  refine ⟨fun r few short => ?_, fun a b m n => Net.of_eq_of_iff, fun c a r n reported => ?_⟩
  · have found := PrefixReport.net_eq_of few short
    have described := PrefixReport.describes_of few short
    refine ⟨_, found, described, rfl, ?_, fun octets few' => ?_⟩
    · let n := Net.of (.padded r.octets) r.length
      have whole : n.base.octets.length ≤ 16 := Nat.le_of_eq n.base.length_octets
      have again : Net.of n.base n.length = n := Net.of_base _ _
      rw [show n.length = r.length from described.length] at again
      rw [PrefixReport.net_eq_of (r := ⟨n.base.octets, r.length⟩) whole short, Ipv6.padded_octets,
        again]
    · have agree := PrefixReport.net_eq_net_iff short octets few few'
      rw [← found]
      exact ⟨fun same => agree.2 fun i inside => PrefixReport.bitAt_eq_of_take same inside, agree⟩
  · obtain ⟨few, short⟩ := PrefixReport.of_net_eq_ok reported
    rw [PrefixReport.net_eq_of few short, Except.ok.injEq] at reported
    have bound : min r.length.toNat 128 = r.length.toNat :=
      Nat.min_eq_left (UInt8.le_iff_toNat_le.1 short)
    have values : c.routeTo a.network = c.routeTo n ↔ a.network = n := by simp [Controller.routeTo]
    rw [values, ← reported, LinkAddress.network, Net.of_eq_of_iff, bound]
    refine and_congr_right fun lengths => ?_
    simp only [lengths, Ipv6.bit_padded few]

/-- Twenty bits end inside the third octet. Two reports that differ behind them are about one
    network, and the route to the network of an address is the route to it. -/
theorem networks_are_canonical_inside_an_octet :
    let r : PrefixReport := ⟨[0xfd, 0x22, 0xff, 0x01], 20⟩
    let octets : List UInt8 := [0xfd, 0x22, 0xf5]
    let a : LinkAddress := .of (.padded [0xfd, 0x22, 0xf0, 0, 7]) 20 .permanent .permanent
    let c : Controller := .new .default
    r.octets.length ≤ 16 ∧ r.length ≤ Net.maxLength ∧ octets.length ≤ 16 ∧
      ∃ n : Net, r.net = .ok n ∧ n.base = .padded [0xfd, 0x22, 0xf0] ∧
        PrefixReport.net ⟨octets, 20⟩ = .ok n ∧ c.routeTo a.network = c.routeTo n := by
  intro r octets a c
  have few : r.octets.length ≤ 16 := by decide
  have short : r.length ≤ Net.maxLength := by decide
  have few' : octets.length ≤ 16 := by decide
  obtain ⟨n, reported, -, value, -, others⟩ := networks_are_canonical.1 r few short
  have agree : ∀ i < 20, bitAt octets i = bitAt r.octets i := by decide
  have bits : ∀ i < 20, a.address.bit i = bitAt r.octets i := by decide
  refine ⟨few, short, few', n, reported, ?_, (others octets few').2.2 agree,
    (networks_are_canonical.2.2 c a r n reported).2 ⟨by decide, bits⟩⟩
  rw [value]
  decide

end MeshLink
