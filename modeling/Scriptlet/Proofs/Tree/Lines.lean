import Scriptlet.Token.Basic
import Scriptlet.Tree.Basic

/-!
Tokens and trees on other lines. A function of line numbers acts on everything that carries one, and
two programs are the same up to lines when the constant function makes them equal.
-/
namespace Scriptlet

def Located.mapLine (f : Nat → Nat) (t : Located) : Located :=
  { t with line := f t.line }

@[simp] theorem Located.token_mapLine (f : Nat → Nat) (t : Located) :
    (t.mapLine f).token = t.token := rfl

def Expr.mapLines (f : Nat → Nat) : Expr → Expr
  | literal value line => literal value (f line)
  | var name line => var name (f line)
  | negate operand line => negate (operand.mapLines f) (f line)
  | binary left op right line => binary (left.mapLines f) op (right.mapLines f) (f line)

mutual

def Stmt.mapLines (f : Nat → Nat) : Stmt → Stmt
  | .print value line => .print (value.mapLines f) (f line)
  | .assign name value line => .assign name (value.mapLines f) (f line)
  | .cond condition body line => .cond (condition.mapLines f) (Program.mapLines f body) (f line)

def Program.mapLines (f : Nat → Nat) : Program → Program
  | [] => []
  | s :: p => s.mapLines f :: Program.mapLines f p

end

/-- The programs differ in nothing but the lines of their nodes. -/
def Program.SameUpToLines (p q : Program) : Prop :=
  p.mapLines (fun _ => 0) = q.mapLines fun _ => 0

end Scriptlet
