/-!
Runs of digits and the numbers they denote. Digits added at the end never make the number smaller,
and the decimal form of the number is the run without the zeros in front (`toDigits_ofDigitChars`).
-/
namespace Scriptlet.Text

variable {c : Char} {ds : List Char} {n : Nat}

theorem le_ofDigitChars (ds : List Char) (n : Nat) : n ≤ Nat.ofDigitChars 10 ds n := by
  induction ds generalizing n with
  | nil => exact Nat.le_refl n
  | cons d ds ih =>
    have hfirst : n ≤ 10 * n + (d.toNat - '0'.toNat) := by omega
    rw [Nat.ofDigitChars_cons]
    exact Nat.le_trans hfirst (ih _)

/-- More digits make no smaller number. -/
theorem ofDigitChars_le_append (ds more : List Char) :
    Nat.ofDigitChars 10 ds 0 ≤ Nat.ofDigitChars 10 (ds ++ more) 0 := by
  rw [Nat.ofDigitChars_append]
  exact le_ofDigitChars more _

/-- The digits without the zeros in front, of which one stays when there is nothing else. -/
def significant (ds : List Char) : List Char :=
  match ds.dropWhile (· == '0') with
  | [] => ['0']
  | d :: rest => d :: rest

theorem digit_lt_ten (hc : c.isDigit = true) : c.toNat - '0'.toNat < 10 := by
  have hrange := Char.isDigit_iff_toNat.mp hc
  simp only [Char.reduceToNat] at hrange ⊢
  omega

theorem toDigits_digit (hc : c.isDigit = true) :
    Nat.toDigits 10 (c.toNat - '0'.toNat) = [c] := by
  have hfirst := (Char.isDigit_iff_toNat.mp hc).1
  rw [Nat.toDigits_of_lt_base (digit_lt_ten hc), List.cons.injEq]
  refine ⟨Char.toNat_inj.mp ?_, rfl⟩
  rw [Nat.toNat_digitChar_of_lt_ten (digit_lt_ten hc)]
  exact Nat.add_sub_of_le hfirst

/-- Behind a number that is not zero, digits are written on as they are. -/
theorem toDigits_ofDigitChars_of_pos (hn : 0 < n) (hds : ∀ c ∈ ds, c.isDigit = true) :
    Nat.toDigits 10 (Nat.ofDigitChars 10 ds n) = Nat.toDigits 10 n ++ ds := by
  induction ds generalizing n with
  | nil => simp
  | cons d ds ih =>
    obtain ⟨hd, hrest⟩ := List.forall_mem_cons.mp hds
    rw [Nat.ofDigitChars_cons, ih (by omega) hrest,
      ← Nat.toDigits_append_toDigits (by decide) hn (digit_lt_ten hd), toDigits_digit hd,
      List.append_assoc, List.singleton_append]

/-- The decimal form of the number that digits denote is the digits without the zeros in front. -/
theorem toDigits_ofDigitChars (hds : ∀ c ∈ ds, c.isDigit = true) :
    Nat.toDigits 10 (Nat.ofDigitChars 10 ds 0) = significant ds := by
  induction ds with
  | nil => rfl
  | cons d ds ih =>
    obtain ⟨hd, hrest⟩ := List.forall_mem_cons.mp hds
    rw [Nat.ofDigitChars_cons, Nat.mul_zero, Nat.zero_add]
    by_cases hzero : d = '0'
    · subst hzero
      exact ih hrest
    · have hpos : 0 < d.toNat - '0'.toNat := by
        have hne : d.toNat ≠ '0'.toNat := fun h => hzero (Char.toNat_inj.mp h)
        have hle := (Char.isDigit_iff_toNat.mp hd).1
        omega
      rw [toDigits_ofDigitChars_of_pos hpos hrest, toDigits_digit hd, significant,
        List.dropWhile_cons_of_neg (by simpa using hzero)]
      rfl

end Scriptlet.Text
