import Scriptlet.Parse.Reply
import Scriptlet.Tree.Basic

/-!
Reading expressions. A comparison joins at most two sums, a sum joins products from the left, a
product joins signed operands from the left, and a minus sign binds tighter than any of them. An
operator is recognised whichever kind of token carries it; a sign is a plain operator token.
-/
namespace Scriptlet.Parse

/-- The expression that a single token is. -/
def atom? (t : Located) : Option Expr :=
  match t.token with
  | .number n => some (.literal (.int n) t.line)
  | .text s => some (.literal (.text s) t.line)
  | .name x => some (.var x t.line)
  | _ => none

mutual

/-- A literal, a variable or an expression in parentheses. -/
def primary (ts : List Located) : Reply Expr ts.length :=
  match ts with
  | [] => .fail (.unexpectedEnd .expression) []
  | ⟨.leftParen, _⟩ :: rest =>
    (comparison rest).andThen fun inner after fewer =>
      match after with
      | [] => .fail (.unexpectedEnd (.token .rightParen)) []
      | ⟨.rightParen, _⟩ :: rest => .done inner rest (by simp at fewer ⊢; omega)
      | ⟨t, line⟩ :: rest => .fail (.expectedToken .rightParen t.kind line) rest
  | t :: rest =>
    match atom? t with
    | some e => .done e rest (by simp)
    | none => .fail (.unexpectedToken t.token.kind t.line) rest
termination_by (ts.length, 0)

/-- An operand under any number of minus signs. -/
def signed (ts : List Located) : Reply Expr ts.length :=
  match ts with
  | ⟨.op .sub, line⟩ :: rest => ((signed rest).map (.negate · line)).weaken (by simp)
  | ts => primary ts
termination_by (ts.length, 1)

/-- Signed operands joined by `*` and `/`. -/
def product (ts : List Located) : Reply Expr ts.length :=
  (signed ts).andThen fun left rest fewer => (productFrom left rest).weaken fewer
termination_by (ts.length, 2)

/-- The rest of a product whose part read so far is `left`. -/
def productFrom (left : Expr) (ts : List Located) : Reply Expr (ts.length + 1) :=
  match ts with
  | [] => .done left [] (by simp)
  | ⟨t, line⟩ :: rest =>
    match t.operator? with
    | some op =>
      if op.isMultiplicative then
        (signed rest).andThen fun right after fewer =>
          (productFrom (.binary left op right line) after).weaken (by simp; omega)
      else .done left (⟨t, line⟩ :: rest) (by simp)
    | none => .done left (⟨t, line⟩ :: rest) (by simp)
termination_by (ts.length, 2)

/-- Products joined by `+` and `-`. -/
def sum (ts : List Located) : Reply Expr ts.length :=
  (product ts).andThen fun left rest fewer => (sumFrom left rest).weaken fewer
termination_by (ts.length, 3)

/-- The rest of a sum whose part read so far is `left`. -/
def sumFrom (left : Expr) (ts : List Located) : Reply Expr (ts.length + 1) :=
  match ts with
  | [] => .done left [] (by simp)
  | ⟨t, line⟩ :: rest =>
    match t.operator? with
    | some op =>
      if op.isAdditive then
        (product rest).andThen fun right after fewer =>
          (sumFrom (.binary left op right line) after).weaken (by simp; omega)
      else .done left (⟨t, line⟩ :: rest) (by simp)
    | none => .done left (⟨t, line⟩ :: rest) (by simp)
termination_by (ts.length, 3)

/-- A sum, or two sums with a comparison operator between them. -/
def comparison (ts : List Located) : Reply Expr ts.length :=
  (sum ts).andThen fun left rest fewer => (comparisonFrom left rest).weaken fewer
termination_by (ts.length, 4)

/-- The rest of a comparison whose left side is `left`. -/
def comparisonFrom (left : Expr) (ts : List Located) : Reply Expr (ts.length + 1) :=
  match ts with
  | [] => .done left [] (by simp)
  | ⟨t, line⟩ :: rest =>
    match t.operator? with
    | some op =>
      if op.isComparison then
        ((sum rest).map fun right => .binary left op right line).weaken (by simp; omega)
      else .done left (⟨t, line⟩ :: rest) (by simp)
    | none => .done left (⟨t, line⟩ :: rest) (by simp)
termination_by (ts.length, 4)

end

/-- Any expression. -/
def expression (ts : List Located) : Reply Expr ts.length :=
  comparison ts

end Scriptlet.Parse
