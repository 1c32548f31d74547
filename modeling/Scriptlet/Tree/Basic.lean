import Scriptlet.Operator
import Scriptlet.Value.Basic

/-!
Syntax trees. Every node carries the line of the token that makes it what it is: its keyword, its
name, its literal or its operator.
-/
namespace Scriptlet

inductive Literal where
  | int (n : Int64)
  | text (s : String)
  deriving DecidableEq

def Literal.value : Literal → Value
  | int n => .int n
  | text s => .text s

inductive Expr where
  | literal (value : Literal) (line : Nat)
  | var (name : String) (line : Nat)
  | negate (operand : Expr) (line : Nat)
  | binary (left : Expr) (op : Operator) (right : Expr) (line : Nat)
  deriving DecidableEq

inductive Stmt where
  | print (value : Expr) (line : Nat)
  | assign (name : String) (value : Expr) (line : Nat)
  | cond (condition : Expr) (body : List Stmt) (line : Nat)

namespace Stmt

def line : Stmt → Nat
  | print _ line | assign _ _ line | cond _ _ line => line

/-- The statements that change the state themselves. -/
def isSimple : Stmt → Bool
  | print .. | assign .. => true
  | cond .. => false

/-- Induction on a statement, with the claim at hand for every statement of a body. -/
@[elab_as_elim]
theorem ind {motive : Stmt → Prop}
    (print : ∀ value line, motive (.print value line))
    (assign : ∀ name value line, motive (.assign name value line))
    (cond : ∀ condition body line, (∀ s ∈ body, motive s) → motive (.cond condition body line))
    (s : Stmt) : motive s :=
  Stmt.rec (motive_1 := motive) (motive_2 := fun body => ∀ s ∈ body, motive s)
    print assign (fun condition body line h => cond condition body line h)
    (by simp) (fun _ _ hs hbody => by simpa using ⟨hs, hbody⟩) s

end Stmt

abbrev Program := List Stmt

end Scriptlet
