import Scriptlet.Proofs.Run.Rules

/-!
The statements that a run begins. They are some of the statements of the program in pre-order, those
of a body only where the `if` around them was begun (`Runs.selects`).
-/
namespace Scriptlet

/-- A choice among the statements of a program, in pre-order. Each is taken at most once, and one in
a body is taken only after the `if` that has the body. -/
inductive Selects : Program → List Stmt → Prop
  | nil : Selects [] []
  | skip {s : Stmt} {p : Program} {chosen : List Stmt} :
    Selects p chosen → Selects (s :: p) chosen
  | take {s : Stmt} {p : Program} {chosen : List Stmt} :
    Selects p chosen → Selects (s :: p) (s :: chosen)
  | enter {condition : Expr} {body p : Program} {line : Nat} {inner chosen : List Stmt} :
    Selects body inner → Selects p chosen →
    Selects (.cond condition body line :: p) (.cond condition body line :: inner ++ chosen)

namespace Selects

theorem none (p : Program) : Selects p [] := by
  induction p with
  | nil => exact .nil
  | cons s p ih => exact ih.skip

theorem sublist {p : Program} {chosen : List Stmt} (h : Selects p chosen) :
    chosen.Sublist p.statements := by
  induction h with
  | nil => exact .refl _
  | skip _ ih => exact ih.trans (List.sublist_append_right _ _)
  | @take s p chosen _ ih =>
    obtain ⟨inner, hs⟩ := s.statements_eq_cons
    rw [Program.statements, hs]
    exact (ih.trans (List.sublist_append_right _ _)).cons_cons s
  | enter _ _ ihbody ih =>
    rw [Program.statements, Stmt.statements]
    exact (ihbody.append ih).cons_cons _

end Selects

theorem Runs.selects {p : Program} {state : State} {r : Run} (h : Runs p state r) :
    Selects p r.begun := by
  induction h with
  | nil => exact .nil
  | stop => exact .take (.none _)
  | print _ _ ih | assign _ _ ih | skip _ _ _ ih => exact .take ih
  | enter _ _ _ _ _ ihbody ih => exact .enter ihbody ih
  | @fail condition body p line _ _ inner _ _ _ _ _ ihbody =>
    have hbegun : Selects (.cond condition body line :: p)
        (.cond condition body line :: inner.begun ++ []) := .enter ihbody (.none p)
    rwa [List.append_nil] at hbegun

def Stmt.isPrint : Stmt → Bool
  | print .. => true
  | assign .. | cond .. => false

end Scriptlet
