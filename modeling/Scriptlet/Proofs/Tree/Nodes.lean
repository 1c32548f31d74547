import Scriptlet.Tree.Basic

/-!
The parts of a tree: the nodes of an expression, the operands of a node, the expression that a
statement itself evaluates, and the statements of a program with those of the bodies in it.
-/
namespace Scriptlet

namespace Expr

def line : Expr → Nat
  | literal _ line | var _ line | negate _ line | binary _ _ _ line => line

/-- The expression itself and everything below it. -/
def nodes : Expr → List Expr
  | literal value line => [literal value line]
  | var name line => [var name line]
  | negate operand line => negate operand line :: operand.nodes
  | binary left op right line => binary left op right line :: (left.nodes ++ right.nodes)

/-- The operands of the node on top. -/
def operands : Expr → List Expr
  | literal .. | var .. => []
  | negate operand _ => [operand]
  | binary left _ right _ => [left, right]

/-- The node on top is a negation or an arithmetic operator. -/
def isArithmetic : Expr → Bool
  | literal .. | var .. => false
  | negate .. => true
  | binary _ op _ _ => !op.isComparison

/-- The operator written at the node on top. A negation is written with the sign of a difference. -/
def sign? : Expr → Option Operator
  | literal .. | var .. => none
  | negate .. => some .sub
  | binary _ op _ _ => some op

theorem self_mem_nodes (e : Expr) : e ∈ e.nodes := by
  cases e <;> simp [nodes]

end Expr

/-- The expression a statement evaluates itself, apart from the statements of its body. -/
def Stmt.expr : Stmt → Expr
  | print value _ | assign _ value _ => value
  | cond condition _ _ => condition

mutual

def Stmt.statements : Stmt → List Stmt
  | .print value line => [.print value line]
  | .assign name value line => [.assign name value line]
  | .cond condition body line => .cond condition body line :: Program.statements body

/-- The statements of a program in pre-order: an `if` comes before those of its body, and these
before what follows the `if`. -/
def Program.statements : Program → List Stmt
  | [] => []
  | s :: p => s.statements ++ Program.statements p

end

theorem Stmt.statements_eq_cons (s : Stmt) : ∃ inner, s.statements = s :: inner := by
  cases s <;> exact ⟨_, rfl⟩

end Scriptlet
