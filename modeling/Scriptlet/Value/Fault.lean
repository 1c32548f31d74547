import Scriptlet.Operator
import Scriptlet.Value.Basic

/-!
Why an operation on values has no result.
-/
namespace Scriptlet

inductive Fault where
  | operands (left : ValueType) (op : Operator) (right : ValueType)
  | operand (type : ValueType)
  | divisionByZero
  | overflow
  | misapplied (op : Operator)
  deriving DecidableEq

/-- The wording of a fault. `misapplied` is the use of an operator as one of the other family. -/
def Fault.message : Fault → String
  | operands left op right =>
    s!"Unsupported operand types: {left.label} {op.symbol} {right.label}."
  | operand type => s!"Unsupported operand types: -{type.label}."
  | divisionByZero => "Division by zero."
  | overflow => "Integer overflow while trying to compute result."
  | misapplied op => s!"Operator {op.symbol} has no such use."

end Scriptlet
