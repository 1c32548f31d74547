import Scriptlet.Value.Fault
import Scriptlet.Word.Basic

/-!
Arithmetic on words that never wraps. Sums, differences, products and negations are computed exactly
and refused when no word holds them. Division works on the words themselves and rounds towards minus
infinity.
-/
namespace Scriptlet.Word

/-- An exact result, or an overflow when no word holds it. -/
def checked (i : Int) : Except Fault Int64 :=
  (ofInt? i).elim (.error .overflow) .ok

def add (a b : Int64) : Except Fault Int64 := checked (a.toInt + b.toInt)

def sub (a b : Int64) : Except Fault Int64 := checked (a.toInt - b.toInt)

def mul (a b : Int64) : Except Fault Int64 := checked (a.toInt * b.toInt)

def neg (a : Int64) : Except Fault Int64 := checked (-a.toInt)

/-- Division rounding towards minus infinity. Words divide towards zero, so an inexact quotient of
operands with different signs is one too large. -/
def floorDiv (a b : Int64) : Except Fault Int64 :=
  if b = 0 then .error .divisionByZero
  else if a = Int64.minValue ∧ b = -1 then .error .overflow
  else if a % b ≠ 0 ∧ (a < 0 ↔ ¬b < 0) then .ok (a / b - 1)
  else .ok (a / b)

theorem checked_eq_ok_iff {i : Int} {n : Int64} : checked i = .ok n ↔ n.toInt = i := by
  rw [← ofInt?_eq_some_iff]
  cases h : ofInt? i <;> simp [checked, h]

end Scriptlet.Word
