import Scriptlet.Token.Basic
import Scriptlet.Tree.Basic

/-!
The grammar of token lists, as relations between a list of tokens and the tree it spells. Nothing
here chooses how much to read: a phrase may be split wherever the rules allow it.
-/
namespace Scriptlet.Grammar

/-- The five kinds of expression phrases, the loosest binding first. -/
inductive Level where
  | comparison | sum | product | signed | primary
  deriving DecidableEq

/-- The operators that join the parts of a phrase. -/
def Level.operators : Level → List Operator
  | comparison => [.less, .greater, .lessEqual, .greaterEqual, .equal]
  | sum => [.add, .sub]
  | product => [.mul, .div]
  | signed | primary => []

/-- Both kinds of operator tokens may carry any operator. -/
def Carries (t : Token) (op : Operator) : Prop :=
  t = .op op ∨ t = .compare op

/-- Sums and products grow to the right of what they already hold, a comparison joins two sums, and
a sign is an arithmetic token. Every node keeps the line of its literal, name or operator. -/
inductive Derives : Level → List Located → Expr → Prop
  | number (n : Int64) (line : Nat) :
    Derives .primary [⟨.number n, line⟩] (.literal (.int n) line)
  | text (s : String) (line : Nat) :
    Derives .primary [⟨.text s, line⟩] (.literal (.text s) line)
  | name (x : String) (line : Nat) :
    Derives .primary [⟨.name x, line⟩] (.var x line)
  | parens {ts : List Located} {e : Expr} (opening closing : Nat) :
    Derives .comparison ts e →
    Derives .primary (⟨.leftParen, opening⟩ :: ts ++ [⟨.rightParen, closing⟩]) e
  | operand {ts : List Located} {e : Expr} :
    Derives .primary ts e → Derives .signed ts e
  | minus {ts : List Located} {e : Expr} (line : Nat) :
    Derives .signed ts e → Derives .signed (⟨.op .sub, line⟩ :: ts) (.negate e line)
  | factor {ts : List Located} {e : Expr} :
    Derives .signed ts e → Derives .product ts e
  | multiplied {ts us : List Located} {l r : Expr} {t : Token} {op : Operator} (line : Nat) :
    Derives .product ts l → Carries t op → op ∈ Level.product.operators → Derives .signed us r →
    Derives .product (ts ++ ⟨t, line⟩ :: us) (.binary l op r line)
  | term {ts : List Located} {e : Expr} :
    Derives .product ts e → Derives .sum ts e
  | added {ts us : List Located} {l r : Expr} {t : Token} {op : Operator} (line : Nat) :
    Derives .sum ts l → Carries t op → op ∈ Level.sum.operators → Derives .product us r →
    Derives .sum (ts ++ ⟨t, line⟩ :: us) (.binary l op r line)
  | side {ts : List Located} {e : Expr} :
    Derives .sum ts e → Derives .comparison ts e
  | compared {ts us : List Located} {l r : Expr} {t : Token} {op : Operator} (line : Nat) :
    Derives .sum ts l → Carries t op → op ∈ Level.comparison.operators → Derives .sum us r →
    Derives .comparison (ts ++ ⟨t, line⟩ :: us) (.binary l op r line)

mutual

/-- A statement: `print`, `if` with a body in braces, or an assignment. -/
inductive DerivesStmt : List Located → Stmt → Prop
  | print {ts : List Located} {e : Expr} (line : Nat) :
    Derives .comparison ts e → DerivesStmt (⟨.print, line⟩ :: ts) (.print e line)
  | cond {ts us : List Located} {e : Expr} {body : Program} (line opening closing : Nat) :
    Derives .comparison ts e → DerivesProgram us body →
    DerivesStmt (⟨.cond, line⟩ :: ts ++ ⟨.leftBrace, opening⟩ :: us ++ [⟨.rightBrace, closing⟩])
      (.cond e body line)
  | assign {ts : List Located} {e : Expr} (x : String) (line sign : Nat) :
    Derives .comparison ts e →
    DerivesStmt (⟨.name x, line⟩ :: ⟨.assign, sign⟩ :: ts) (.assign x e line)

/-- Statements one after the other, with nothing between them. -/
inductive DerivesProgram : List Located → Program → Prop
  | nil : DerivesProgram [] []
  | cons {ts us : List Located} {s : Stmt} {p : Program} :
    DerivesStmt ts s → DerivesProgram us p → DerivesProgram (ts ++ us) (s :: p)

end

end Scriptlet.Grammar
