import Scriptlet.Text.Bytes

/-!
Values of a running script: 64-bit integers, texts and truth values. `order?` compares two values
of one type and has no answer across types.
-/
namespace Scriptlet

inductive ValueType where
  | integer | text | boolean
  deriving DecidableEq

/-- The name of a type in error messages. -/
def ValueType.label : ValueType → String
  | integer => "integer"
  | text => "string"
  | boolean => "boolean"

inductive Value where
  | int (n : Int64)
  | text (s : String)
  | bool (b : Bool)
  deriving DecidableEq

namespace Value

def type : Value → ValueType
  | int _ => .integer
  | text _ => .text
  | bool _ => .boolean

/-- Zero, the empty text and `false` fail a condition; every other value passes it. -/
def isTruthy : Value → Bool
  | int n => n != 0
  | text s => s != ""
  | bool b => b

/-- The line that printing a value adds to the output. -/
def display : Value → String
  | int n => n.toInt.repr
  | text s => s
  | bool true => "true"
  | bool false => "false"

/-- Integers compare by value, texts by their bytes, and `false` comes before `true`. -/
def order? : Value → Value → Option Ordering
  | int a, int b => some (compare a b)
  | text a, text b => some (Text.order a b)
  | bool a, bool b => some (compare a b)
  | _, _ => none

theorem isSome_order? (a b : Value) : (a.order? b).isSome = decide (a.type = b.type) := by
  cases a <;> cases b <;> rfl

theorem order?_self (a : Value) : a.order? a = some .eq := by
  cases a <;> simp [order?]

end Value

end Scriptlet
