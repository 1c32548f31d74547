/-!
Integers and the 64-bit words that hold them. `ofInt?_eq_some_iff` pins the words down: a word holds
exactly one integer, and every integer of the range is held.
-/
namespace Scriptlet.Word

/-- The word that holds an integer of the range. -/
def ofInt? (i : Int) : Option Int64 :=
  if Int64.minValue.toInt ≤ i ∧ i ≤ Int64.maxValue.toInt then some (Int64.ofInt i) else none

theorem ofInt?_eq_some_iff {i : Int} {n : Int64} : ofInt? i = some n ↔ n.toInt = i := by
  unfold ofInt?
  split
  · rename_i h
    have hi : (Int64.ofInt i).toInt = i :=
      Int64.toInt_ofInt_of_le h.1 (Int.lt_add_one_of_le h.2)
    rw [Option.some.injEq, ← Int64.toInt_inj, hi]
    exact eq_comm
  · rename_i h
    simp only [reduceCtorEq, false_iff]
    rintro rfl
    exact h ⟨n.minValue_le_toInt, n.toInt_le⟩

theorem ofInt?_toInt (n : Int64) : ofInt? n.toInt = some n :=
  ofInt?_eq_some_iff.mpr rfl

theorem ofInt?_eq_none_iff {i : Int} :
    ofInt? i = none ↔ i < Int64.minValue.toInt ∨ Int64.maxValue.toInt < i := by
  unfold ofInt?
  split
  · rename_i h
    simp only [reduceCtorEq, false_iff]
    omega
  · rename_i h
    simp only [true_iff]
    omega

end Scriptlet.Word
