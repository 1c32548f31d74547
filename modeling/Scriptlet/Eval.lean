import Scriptlet.Error
import Scriptlet.Store
import Scriptlet.Tree.Basic
import Scriptlet.Value.Operation

/-!
The value of an expression. Operands are evaluated from left to right, the first fault ends the
evaluation, and a fault is reported on the line of its operator. Evaluation never changes the store.
-/
namespace Scriptlet.Expr

/-- Places the fault of an operation on a line. -/
def located {α : Type} (line : Nat) (r : Except Fault α) : Except RuntimeError α :=
  r.mapError fun fault => ⟨fault, line⟩

theorem located_eq_ok_iff {α : Type} {line : Nat} {r : Except Fault α} {v : α} :
    located line r = .ok v ↔ r = .ok v := by
  cases r with
  | error fault => exact ⟨nofun, nofun⟩
  | ok w =>
    constructor
    · intro h
      cases h
      rfl
    · intro h
      cases h
      rfl

theorem located_eq_error_iff {α : Type} {line : Nat} {r : Except Fault α} {e : RuntimeError} :
    located line r = .error e ↔ r = .error e.fault ∧ e.line = line := by
  cases r with
  | ok v => exact ⟨nofun, nofun⟩
  | error fault =>
    constructor
    · intro h
      cases h
      exact ⟨rfl, rfl⟩
    · intro h
      obtain ⟨hfault, hline⟩ := h
      cases hfault
      rw [← hline]
      rfl

def eval (store : Store) : Expr → Except RuntimeError Value
  | literal value _ => .ok value.value
  | var name _ => .ok (store.read name)
  | negate operand line => do
    let v ← operand.eval store
    located line v.negate
  | binary left op right line => do
    let a ← left.eval store
    let b ← right.eval store
    located line (Value.apply op a b)

end Scriptlet.Expr
