import MeshLink.Lifetime
set_option autoImplicit false

/-! # The time that remains

What remains of a lifetime is a difference of two 64-bit times in whole seconds, within the range of
a 32-bit number. Two of the steps of its computation could spoil it: the difference is kept within
64 bits, and the division rounds towards zero. Neither shows in the result
(`Lifetime.toNat_remaining`), since both change only what is cut off afterwards. -/

namespace MeshLink.Lifetime

@[simp] theorem remaining_permanent (now : Int64) : permanent.remaining now = infinite := rfl

/-- The difference, or the end of the range of 64-bit times that it lies beyond. -/
theorem toInt_saturatingSub (a b : Int64) :
    (saturatingSub a b).toInt =
      max Int64.minValue.toInt (min Int64.maxValue.toInt (a.toInt - b.toInt)) := by
  have ha := a.toInt_lt
  have ha' := a.le_toInt
  have hb := b.toInt_lt
  have hb' := b.le_toInt
  have wrapped : (a - b).toInt = (a.toInt - b.toInt).bmod (2 ^ 64) := Int64.toInt_sub a b
  rw [Int.bmod_def] at wrapped
  simp only [saturatingSub, Bool.and_eq_true, decide_eq_true_eq, Int64.lt_iff_toInt_lt,
    Int64.toInt_zero]
  rw [Int64.toInt_minValue, Int64.toInt_maxValue]
  split
  · rw [Int64.toInt_maxValue]
    omega
  · split
    · rw [Int64.toInt_minValue]
      omega
    · omega

/-- Dividing by a thousand cannot leave the range, and rounds towards zero. -/
theorem toInt_div_thousand (a : Int64) :
    (a / 1000).toInt = if 0 ≤ a.toInt then a.toInt / 1000 else -(-a.toInt / 1000) := by
  have thousand : (1000 : Int64).toInt = 1000 := rfl
  rw [Int64.toInt_div_of_ne_right _ _ (by decide), thousand]
  split
  · next h => exact Int.tdiv_eq_ediv_of_nonneg h
  · next h =>
      have positive : 0 ≤ -a.toInt := by omega
      rw [← Int.tdiv_eq_ediv_of_nonneg positive, Int.neg_tdiv, Int.neg_neg]

theorem toNat_infinite : infinite.toNat = 4294967295 := rfl

/-- **What remains of a time** is the difference in whole seconds, but not less than nothing and not
    more than the largest number. -/
theorem toNat_remaining (ms now : Int64) :
    ((Lifetime.at ms).remaining now).toNat =
      min ((ms.toInt - now.toInt) / 1000).toNat infinite.toNat := by
  have difference := toInt_saturatingSub ms now
  rw [Int64.toInt_minValue, Int64.toInt_maxValue] at difference
  have seconds := toInt_div_thousand (saturatingSub ms now)
  have largest : (4294967295 : Int64).toInt = 4294967295 := rfl
  have hm := ms.toInt_lt
  have hn := now.le_toInt
  simp only [remaining, Int64.lt_iff_toInt_lt, gt_iff_lt, Int64.toInt_zero, largest, toNat_infinite]
  split
  · rw [UInt32.toNat_zero]
    omega
  · split
    · rw [toNat_infinite]
      omega
    · rw [Nat.toUInt32, UInt32.toNat_ofNat']
      omega

/-- Nothing remains exactly if less than a second does. -/
theorem remaining_eq_zero_iff {ms now : Int64} :
    (Lifetime.at ms).remaining now = 0 ↔ ms.toInt < now.toInt + 1000 := by
  rw [← UInt32.toNat_inj, toNat_remaining, toNat_infinite, UInt32.toNat_zero]
  omega

theorem remaining_le_infinite (l : Lifetime) (now : Int64) : l.remaining now ≤ infinite := by
  cases l with
  | permanent | unknown => exact UInt32.le_refl _
  | «at» ms =>
      rw [UInt32.le_iff_toNat_le, toNat_remaining]
      exact Nat.min_le_right _ _

theorem remaining_mono {ms later : Int64} (h : ms ≤ later) (now : Int64) :
    (Lifetime.at ms).remaining now ≤ (Lifetime.at later).remaining now := by
  have order : ms.toInt ≤ later.toInt := Int64.le_iff_toInt_le.1 h
  rw [UInt32.le_iff_toNat_le, toNat_remaining, toNat_remaining]
  omega

theorem remaining_anti {now later : Int64} (h : now ≤ later) (ms : Int64) :
    (Lifetime.at ms).remaining later ≤ (Lifetime.at ms).remaining now := by
  have order : now.toInt ≤ later.toInt := Int64.le_iff_toInt_le.1 h
  rw [UInt32.le_iff_toNat_le, toNat_remaining, toNat_remaining]
  omega

/-- **What remains is exact.** For all times it is the difference of the two, divided by a thousand,
    rounded down and then brought into the range of a 32-bit number, as over unbounded integers. So
    it grows with the end and shrinks with the clock, and it is nothing exactly if less than a
    second is left. A lifetime without an end leaves the largest number, which no lifetime
    exceeds. -/
theorem remaining_is_exact (ms now : Int64) :
    (((Lifetime.at ms).remaining now).toNat : Int) =
      min (max ((ms.toInt - now.toInt).fdiv 1000) 0) 0xffffffff ∧
    (∀ later, ms ≤ later → (Lifetime.at ms).remaining now ≤ (Lifetime.at later).remaining now) ∧
    (∀ later, now ≤ later → (Lifetime.at ms).remaining later ≤ (Lifetime.at ms).remaining now) ∧
    ((Lifetime.at ms).remaining now = 0 ↔ ms.toInt < now.toInt + 1000) ∧
    (permanent.remaining now).toNat = 0xffffffff ∧ (unknown.remaining now).toNat = 0xffffffff ∧
    ∀ (l : Lifetime) (time : Int64), l.remaining time ≤ permanent.remaining now := by
  refine ⟨?_, fun later h => remaining_mono h now, fun later h => remaining_anti h ms,
    remaining_eq_zero_iff, rfl, rfl, remaining_le_infinite⟩
  rw [Int.fdiv_eq_ediv_of_nonneg _ (by decide), toNat_remaining, toNat_infinite]
  omega

/-- A time just behind the first one and the last one, whose distance does not fit into 64 bits, and
    a difference just below zero, which the division rounds up and the exact one down. -/
theorem remaining_is_exact_at_the_ends :
    let first := Int64.minValue
    let last := Int64.maxValue
    (Lifetime.at last).remaining first = infinite ∧ (Lifetime.at first).remaining last = 0 ∧
    (-1 : Int64) / 1000 = 0 ∧ (-1 : Int).fdiv 1000 = -1 ∧ (Lifetime.at (-1)).remaining 0 = 0 ∧
    (Lifetime.at (first + 1999)).remaining first = 1 ∧ first + 1999 ≤ last ∧
    (Lifetime.at (first + 1999)).remaining first ≤ (Lifetime.at last).remaining first ∧
    (Lifetime.at last).remaining (last - 2000) = 2 ∧ first ≤ last - 2000 ∧
    (Lifetime.at last).remaining (last - 2000) ≤ (Lifetime.at last).remaining first := by
  intro first last
  have order : first + 1999 ≤ last := by decide
  have order' : first ≤ last - 2000 := by decide
  have later := (remaining_is_exact (first + 1999) first).2.1 last order
  have sooner := (remaining_is_exact last first).2.2.1 (last - 2000) order'
  exact ⟨by decide, by decide, by decide, by decide, by decide, by decide, order, later, by decide,
    order', sooner⟩

end MeshLink.Lifetime
