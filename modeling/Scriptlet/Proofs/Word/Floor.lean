import Mathlib.Data.Rat.Floor
import Scriptlet.Proofs.Guarded.Evaluation
import Scriptlet.Proofs.Outcome

/-!
Division of words is the floor of the exact quotient. A quotient rounded to minus infinity is known
by the remainder that it leaves (`IsFloor`), and words are divided so wherever a word holds the
result. On the way every word is the integer that it stands for, so none of the steps wraps.
-/
namespace Scriptlet.Word

variable {i j q : Int} {a b : Int64}

/-- The quotient rounded to minus infinity: what it leaves is smaller in size than the divisor, and
is zero or has the divisor's sign. -/
def IsFloor (i j q : Int) : Prop :=
  ∃ r, i = q * j + r ∧ (r = 0 ∨ r.sign = j.sign) ∧ r.natAbs < j.natAbs

theorem isFloor_fdiv (i : Int) (hj : j ≠ 0) : IsFloor i j (i.fdiv j) := by
  have hsum : i = i.fdiv j * j + i.fmod j := by
    rw [Int.mul_comm, Int.mul_fdiv_add_fmod]
  refine ⟨i.fmod j, hsum, ?_⟩
  rcases Int.lt_or_gt_of_ne hj with hneg | hpos
  · -- Both signs turned around, the remainder is turned around as well.
    have hturn := Int.neg_fmod_neg i j
    have hnonneg := Int.fmod_nonneg_of_pos (-i) (Int.neg_pos_of_neg hneg)
    have hlt := Int.fmod_lt_of_pos (-i) (Int.neg_pos_of_neg hneg)
    refine ⟨?_, by omega⟩
    by_cases hr : i.fmod j = 0
    · exact .inl hr
    · rw [Int.sign_eq_neg_one_of_neg hneg, Int.sign_eq_neg_one_of_neg (by omega)]
      exact .inr rfl
  · have hnonneg := Int.fmod_nonneg_of_pos i hpos
    have hlt := Int.fmod_lt_of_pos i hpos
    refine ⟨?_, by omega⟩
    by_cases hr : i.fmod j = 0
    · exact .inl hr
    · rw [Int.sign_eq_one_of_pos hpos, Int.sign_eq_one_of_pos (by omega)]
      exact .inr rfl

theorem floor_div_eq_fdiv (i j : Int) : ⌊(i : ℚ) / j⌋ = i.fdiv j := by
  have hpos : ∀ (k : Int) (n : Nat), ⌊(k : ℚ) / (n : Int)⌋ = k.fdiv n := by
    intro k n
    rw [Int.fdiv_eq_ediv_of_nonneg k (Int.natCast_nonneg n), Int.cast_natCast]
    exact Rat.floor_intCast_div_natCast k n
  obtain ⟨n, rfl | rfl⟩ := Int.eq_nat_or_neg j
  · exact hpos i n
  · have hneg := hpos (-i) n
    rw [← Int.neg_fdiv_neg, Int.neg_neg, ← hneg, Int.cast_neg, Int.cast_neg, neg_div, div_neg]

theorem eq_minValue_iff : a = Int64.minValue ↔ a.toInt = -2 ^ 63 :=
  Int64.toInt_inj.symm

theorem floorDiv_eq_divisionByZero_iff : floorDiv a b = .error .divisionByZero ↔ b = 0 := by
  unfold floorDiv
  split_ifs with hb <;> simp [hb]

theorem floorDiv_eq_overflow_iff :
    floorDiv a b = .error .overflow ↔ a = Int64.minValue ∧ b = -1 := by
  unfold floorDiv
  split_ifs with hb hmin
  · have hne : b ≠ -1 := by
      rw [hb]
      decide
    simp [hne]
  all_goals simp [hmin]

/-- Away from the operands that have no quotient, division gives the floor. -/
theorem exists_floorDiv_eq_ok (hb : b ≠ 0) (h : ¬(a = Int64.minValue ∧ b = -1)) :
    ∃ q, floorDiv a b = .ok q ∧ q.toInt = a.toInt.fdiv b.toInt := by
  obtain ⟨q, hq⟩ : ∃ q, floorDiv a b = .ok q := by
    unfold floorDiv
    rw [if_neg hb, if_neg h]
    split <;> exact ⟨_, rfl⟩
  refine ⟨q, hq, ?_⟩
  rw [floorDiv_eq, if_neg hb] at hq
  exact checked_eq_ok_iff.mp hq

/-- Division of words on a line. Zero as the divisor is refused as such, the least word is not
divided by minus one, and all other operands have the floor of their quotient as result. The steps
towards it give the integers they should, and the partial ones among them are never used outside
their domain. -/
theorem floorDiv_is_floor (a b : Int64) (line : Nat) :
    let outcome := Expr.located line ((floorDiv a b).map Value.int)
    (outcome = .error ⟨.divisionByZero, line⟩ ↔ b.toInt = 0) ∧
    (outcome = .error ⟨.overflow, line⟩ ↔ a.toInt = -2 ^ 63 ∧ b.toInt = -1) ∧
    (b.toInt ≠ 0 → ¬(a.toInt = -2 ^ 63 ∧ b.toInt = -1) →
      (∃ q : Int64, outcome = .ok (.int q) ∧ q.toInt = ⌊(a.toInt : ℚ) / b.toInt⌋ ∧
        IsFloor a.toInt b.toInt q.toInt) ∧
      (a / b).toInt = a.toInt.tdiv b.toInt ∧ (a % b).toInt = a.toInt.tmod b.toInt ∧
      (a % b ≠ 0 → (a / b - 1).toInt = a.toInt.tdiv b.toInt - 1)) ∧
    Guarded.floorDiv a b = Guarded.calm (floorDiv a b) := by
  intro outcome
  have hfault : ∀ fault, outcome = .error ⟨fault, line⟩ ↔ floorDiv a b = .error fault := by
    intro fault
    rw [Expr.located_eq_error_iff, Outcome.map_eq_error_iff]
    exact and_iff_left rfl
  have hone : b = -1 ↔ b.toInt = -1 := Int64.toInt_inj.symm
  rw [hfault, hfault, floorDiv_eq_divisionByZero_iff, floorDiv_eq_overflow_iff,
    Ne, toInt_eq_zero_iff, ← eq_minValue_iff, ← hone]
  refine ⟨Iff.rfl, Iff.rfl, fun hb hmin => ⟨?_, ?_⟩, Guarded.floorDiv_eq_calm a b⟩
  · obtain ⟨q, hq, hfloor⟩ := exists_floorDiv_eq_ok hb hmin
    refine ⟨q, ?_, ?_, ?_⟩
    · simp only [outcome, hq]
      rfl
    · rw [floor_div_eq_fdiv, hfloor]
    · rw [hfloor]
      exact isFloor_fdiv _ (mt toInt_eq_zero_iff.mp hb)
  · have hquotient := toInt_div_eq_tdiv hmin
    exact ⟨hquotient, Int64.toInt_mod a b, toInt_div_sub_one hquotient⟩

/-- The least word has an inexact third, below its truncated one. -/
theorem floorDiv_is_floor_of_least :
    Expr.located 1 ((floorDiv Int64.minValue 3).map Value.int) =
      .ok (.int (-3074457345618258603)) ∧
    (-3074457345618258603 : Int64).toInt =
      ⌊(Int64.minValue.toInt : ℚ) / (3 : Int64).toInt⌋ := by
  have hthird : Expr.located 1 ((floorDiv Int64.minValue 3).map Value.int) =
      .ok (.int (-3074457345618258603)) := by decide
  obtain ⟨-, -, hexact, -⟩ := floorDiv_is_floor Int64.minValue 3 1
  obtain ⟨⟨q, hq, hfloor, -⟩, -⟩ := hexact (by decide) (by decide)
  rw [hthird] at hq
  cases hq
  exact ⟨hthird, hfloor⟩

end Scriptlet.Word
