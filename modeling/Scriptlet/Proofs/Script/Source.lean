import Scriptlet.Proofs.Lexical.Munch
import Scriptlet.Tree.Basic

/-!
Programs as source text. Lexemes are written with one space between them, and an operand is put in
parentheses only where the operator before or after it would otherwise take it apart. Not every tree
has a source: no script spells a negative literal, a quote inside a text or a name that is no word.
-/
namespace Scriptlet

namespace Operator

/-- The token that a script gives the operator as. -/
def token (op : Operator) : Token :=
  if op.isComparison then .compare op else .op op

/-- Whether an operand with the operator `inner` on top needs parentheses to the left of `outer`. -/
def enclosesLeft (outer inner : Operator) : Bool :=
  if outer.isMultiplicative then inner.isComparison || inner.isAdditive
  else inner.isComparison

/-- Whether an operand with the operator `inner` on top needs parentheses to the right of
`outer`. -/
def enclosesRight (outer inner : Operator) : Bool :=
  if outer.isMultiplicative then true
  else if outer.isAdditive then inner.isComparison || inner.isAdditive
  else inner.isComparison

end Operator

/-- The tokens, in parentheses when these are needed. -/
def enclosed (needed : Bool) (ts : List Token) : List Token :=
  if needed then .leftParen :: ts ++ [.rightParen] else ts

namespace Expr

/-- The binary operator on top. -/
def operator? : Expr → Option Operator
  | binary _ op _ _ => some op
  | literal .. | var .. | negate .. => none

def tokens : Expr → List Token
  | literal (.int n) _ => [.number n]
  | literal (.text s) _ => [.text s]
  | var name _ => [.name name]
  | negate operand _ => .op .sub :: enclosed operand.operator?.isSome operand.tokens
  | binary left op right _ =>
    enclosed (left.operator?.any op.enclosesLeft) left.tokens ++
      op.token :: enclosed (right.operator?.any op.enclosesRight) right.tokens

end Expr

mutual

def Stmt.tokens : Stmt → List Token
  | .print value _ => .print :: value.tokens
  | .assign name value _ => .name name :: .assign :: value.tokens
  | .cond condition body _ =>
    .cond :: condition.tokens ++ .leftBrace :: Program.tokens body ++ [.rightBrace]

def Program.tokens : Program → List Token
  | [] => []
  | s :: p => s.tokens ++ Program.tokens p

end

def Token.spelling : Token → String
  | number n => n.toInt.repr
  | text s => "\"" ++ s ++ "\""
  | print => "print"
  | cond => "if"
  | leftBrace => "\x7b"
  | rightBrace => "\x7d"
  | assign => "="
  | op o | compare o => o.symbol
  | leftParen => "("
  | rightParen => ")"
  | name x => x
  | blank => " "

def Program.source (p : Program) : String :=
  " ".intercalate (p.tokens.map Token.spelling)

/-- A word of ASCII letters and underscores that is no keyword. -/
def IsName (x : String) : Prop :=
  x ≠ "" ∧ (∀ c ∈ x.toList, ('a' ≤ c ∧ c ≤ 'z') ∨ ('A' ≤ c ∧ c ≤ 'Z') ∨ c = '_') ∧
    x ≠ "print" ∧ x ≠ "if"

def Literal.Writable : Literal → Prop
  | int n => 0 ≤ n.toInt
  | text s => '"' ∉ s.toList

def Expr.Writable : Expr → Prop
  | literal value _ => value.Writable
  | var name _ => IsName name
  | negate operand _ => operand.Writable
  | binary left _ right _ => left.Writable ∧ right.Writable

mutual

def Stmt.Writable : Stmt → Prop
  | .print value _ => value.Writable
  | .assign name value _ => IsName name ∧ value.Writable
  | .cond condition body _ => condition.Writable ∧ Program.Writable body

def Program.Writable : Program → Prop
  | [] => True
  | s :: p => s.Writable ∧ Program.Writable p

end

theorem isName_iff {x : String} :
    IsName x ↔ x ≠ "" ∧ x.toList.all Lexeme.isWordChar ∧ x ≠ "print" ∧ x ≠ "if" := by
  simp only [IsName, List.all_eq_true, Lexical.isWordChar_iff]

instance (x : String) : Decidable (IsName x) :=
  decidable_of_iff _ isName_iff.symm

instance : (value : Literal) → Decidable value.Writable
  | .int n => inferInstanceAs (Decidable (0 ≤ n.toInt))
  | .text s => inferInstanceAs (Decidable ('"' ∉ s.toList))

def Expr.decideWritable : (e : Expr) → Decidable e.Writable
  | literal value _ => inferInstanceAs (Decidable value.Writable)
  | var name _ => inferInstanceAs (Decidable (IsName name))
  | negate operand _ => operand.decideWritable
  | binary left _ right _ => @instDecidableAnd _ _ left.decideWritable right.decideWritable

instance (e : Expr) : Decidable e.Writable := e.decideWritable

mutual

def Stmt.decideWritable : (s : Stmt) → Decidable s.Writable
  | .print value _ => inferInstanceAs (Decidable value.Writable)
  | .assign name value _ => inferInstanceAs (Decidable (IsName name ∧ value.Writable))
  | .cond condition body _ =>
    @instDecidableAnd _ _ condition.decideWritable (Program.decideWritable body)

def Program.decideWritable : (p : Program) → Decidable p.Writable
  | [] => .isTrue trivial
  | s :: p => @instDecidableAnd _ _ s.decideWritable (Program.decideWritable p)

end

instance (p : Program) : Decidable p.Writable := p.decideWritable

end Scriptlet
