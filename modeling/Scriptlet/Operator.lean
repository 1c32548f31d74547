/-!
The binary operators. Four compute a new value from two, five compare two values, and each
family binds at its own strength.
-/
namespace Scriptlet

inductive Operator where
  | add | sub | mul | div
  | less | greater | lessEqual | greaterEqual | equal
  deriving DecidableEq

namespace Operator

/-- The operator as it is written in a script. -/
def symbol : Operator → String
  | add => "+"
  | sub => "-"
  | mul => "*"
  | div => "/"
  | less => "<"
  | greater => ">"
  | lessEqual => "<="
  | greaterEqual => ">="
  | equal => "=="

def isComparison : Operator → Bool
  | less | greater | lessEqual | greaterEqual | equal => true
  | add | sub | mul | div => false

/-- The operators that join the terms of a sum. -/
def isAdditive : Operator → Bool
  | add | sub => true
  | _ => false

/-- The operators that join the factors of a product. -/
def isMultiplicative : Operator → Bool
  | mul | div => true
  | _ => false

/-- Whether a comparison holds of operands in the given order. An arithmetic operator has no
answer. -/
def holds? : Operator → Ordering → Option Bool
  | less, order => some order.isLT
  | greater, order => some order.isGT
  | lessEqual, order => some order.isLE
  | greaterEqual, order => some order.isGE
  | equal, order => some order.isEq
  | add, _ | sub, _ | mul, _ | div, _ => none

theorem isSome_holds? (op : Operator) (order : Ordering) :
    (op.holds? order).isSome = op.isComparison := by
  cases op <;> rfl

/-- Every operator belongs to exactly one of the three binding strengths. -/
theorem isComparison_eq (op : Operator) :
    op.isComparison = !(op.isMultiplicative || op.isAdditive) := by
  cases op <;> rfl

theorem isAdditive_eq_false {op : Operator} (h : op.isMultiplicative = true) :
    op.isAdditive = false := by
  cases op <;> first | rfl | cases h

end Operator

end Scriptlet
