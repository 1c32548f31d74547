import Scriptlet.Word.Checked

/-!
Operators on values. Arithmetic takes integers, `+` also joins texts, and comparison takes two
values of one type. Values of different types are never equal and have no order.
-/
namespace Scriptlet.Value

/-- The fault of operands that an operator does not take. -/
def unsupported (op : Operator) (a b : Value) : Fault :=
  .operands a.type op b.type

/-- Arithmetic on two integers. -/
def arithmetic : Operator → Int64 → Int64 → Except Fault Int64
  | .add, a, b => Word.add a b
  | .sub, a, b => Word.sub a b
  | .mul, a, b => Word.mul a b
  | .div, a, b => Word.floorDiv a b
  | op, _, _ => .error (.misapplied op)

/-- The value of an arithmetic operator on its operands. -/
def calculate (op : Operator) : Value → Value → Except Fault Value
  | int a, int b => (arithmetic op a b).map int
  | text a, text b =>
    if op = .add then .ok (text (a ++ b)) else .error (unsupported op (text a) (text b))
  | a, b => .error (unsupported op a b)

/-- The truth value of a comparison. Equality has an answer for any two values. -/
def relate (op : Operator) (a b : Value) : Except Fault Value :=
  match a.order? b with
  | some order => (op.holds? order).elim (.error (.misapplied op)) fun holds => .ok (bool holds)
  | none => if op = .equal then .ok (bool false) else .error (unsupported op a b)

/-- A binary operator on two values. -/
def apply (op : Operator) (a b : Value) : Except Fault Value :=
  if op.isComparison then relate op a b else calculate op a b

/-- Negation takes integers only. -/
def negate : Value → Except Fault Value
  | int n => (Word.neg n).map int
  | v => .error (.operand v.type)

end Scriptlet.Value
