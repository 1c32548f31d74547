import Scriptlet.Word.Checked

/-!
Division on words against division on integers. `floorDiv_eq` says that the correction of the
truncated quotient gives the exact floor, and the lemmas before it that none of its steps wraps.
-/
namespace Scriptlet.Word

variable {a b : Int64}

theorem toInt_eq_zero_iff : b.toInt = 0 ↔ b = 0 :=
  Int64.toInt_inj (y := 0)

theorem lt_zero_iff_toInt : b < 0 ↔ b.toInt < 0 := by
  rw [Int64.lt_iff_toInt_lt]
  rfl

/-- Only the least word divided by minus one has no quotient. -/
theorem toInt_div_eq_tdiv (h : ¬(a = Int64.minValue ∧ b = -1)) :
    (a / b).toInt = a.toInt.tdiv b.toInt := by
  by_cases ha : a = Int64.minValue
  · exact Int64.toInt_div_of_ne_right a b fun hb => h ⟨ha, hb⟩
  · exact Int64.toInt_div_of_ne_left a b ha

theorem mod_ne_zero_iff : a % b ≠ 0 ↔ ¬b.toInt ∣ a.toInt := by
  rw [ne_eq, ← toInt_eq_zero_iff, Int64.toInt_mod, Int.dvd_iff_tmod_eq_zero]

/-- An inexact quotient is far from the ends of the range, since its divisor is at least two in
size. -/
theorem two_mul_natAbs_tdiv_le {i j : Int} (h : ¬j ∣ i) : 2 * (i.tdiv j).natAbs ≤ i.natAbs := by
  by_cases hj : j.natAbs ≤ 1
  · rcases (show j = 0 ∨ j = 1 ∨ j = -1 by omega) with rfl | rfl | rfl
    · simp
    · exact absurd (Int.one_dvd i) h
    · exact absurd (Int.neg_dvd.mpr (Int.one_dvd i)) h
  · have hle : i.natAbs / j.natAbs ≤ i.natAbs / 2 := Nat.div_le_div_left (by omega) (by decide)
    have habs : (i.tdiv j).natAbs = i.natAbs / j.natAbs := Int.natAbs_tdiv i j
    omega

/-- The range of words, with its ends written out. -/
theorem toInt_range (n : Int64) :
    -9223372036854775808 ≤ n.toInt ∧ n.toInt ≤ 9223372036854775807 :=
  ⟨n.minValue_le_toInt, n.toInt_le⟩

theorem toInt_div_sub_one (hq : (a / b).toInt = a.toInt.tdiv b.toInt) (hmod : a % b ≠ 0) :
    (a / b - 1).toInt = a.toInt.tdiv b.toInt - 1 := by
  have hsize := two_mul_natAbs_tdiv_le (mod_ne_zero_iff.mp hmod)
  have ha := toInt_range a
  have hone : (1 : Int64).toInt = 1 := rfl
  rw [Int64.toInt_sub, hq, hone]
  apply Int.bmod_eq_of_le <;> omega

/-- The truncated quotient is one too large just where an inexact quotient is negative. -/
theorem fdiv_eq_tdiv_sub {i j : Int} (hj : j ≠ 0) : i.fdiv j =
    if ¬j ∣ i ∧ (i < 0 ↔ ¬j < 0) then i.tdiv j - 1 else i.tdiv j := by
  rw [Int.fdiv_eq_tdiv]
  by_cases hdvd : j ∣ i
  · simp [hdvd]
  have hsign : (j < 0 ∧ j.sign = -1) ∨ (0 < j ∧ j.sign = 1) := by
    rcases Int.lt_or_gt_of_ne hj with hneg | hpos
    · exact .inl ⟨hneg, Int.sign_eq_neg_one_of_neg hneg⟩
    · exact .inr ⟨hpos, Int.sign_eq_one_of_pos hpos⟩
  simp only [hdvd, not_false_eq_true, true_and, ↓reduceIte]
  split <;> split <;> split <;> omega

/-- Division of words is exact division rounded to minus infinity, refused when no word holds it. -/
theorem floorDiv_eq (a b : Int64) : floorDiv a b =
    if b = 0 then .error .divisionByZero else checked (a.toInt.fdiv b.toInt) := by
  unfold floorDiv
  by_cases hb : b = 0
  · simp only [hb, ↓reduceIte]
  simp only [hb, ↓reduceIte]
  by_cases hmin : a = Int64.minValue ∧ b = -1
  · obtain ⟨rfl, rfl⟩ := hmin
    rfl
  have hq := toInt_div_eq_tdiv hmin
  rw [if_neg hmin, fdiv_eq_tdiv_sub (mt toInt_eq_zero_iff.mp hb)]
  simp only [mod_ne_zero_iff, lt_zero_iff_toInt]
  symm
  split
  · rename_i hcase
    rw [checked_eq_ok_iff]
    exact toInt_div_sub_one hq (mod_ne_zero_iff.mpr hcase.1)
  · rw [checked_eq_ok_iff]
    exact hq

end Scriptlet.Word
