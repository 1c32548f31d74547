import Scriptlet.Proofs.Outcome
import Scriptlet.Proofs.Run.Rules
import Scriptlet.Proofs.Tree.Lines

/-!
Running does not look at lines. A program on other lines goes through the same states, and only the
statements it began and the error that stopped it tell the other lines (`Program.run_mapLines`).
-/
namespace Scriptlet

def RuntimeError.mapLine (f : Nat → Nat) (e : RuntimeError) : RuntimeError :=
  { e with line := f e.line }

/-- The errors differ in nothing but their line. -/
def RuntimeError.SameUpToLine (d e : RuntimeError) : Prop :=
  d.mapLine (fun _ => 0) = e.mapLine fun _ => 0

def Run.mapLines (f : Nat → Nat) (r : Run) : Run :=
  ⟨r.state, r.begun.map (Stmt.mapLines f), r.error?.map (RuntimeError.mapLine f)⟩

section
variable (f : Nat → Nat)

theorem Expr.located_mapLine (line : Nat) (r : Except Fault Value) :
    located (f line) r = (located line r).mapError (RuntimeError.mapLine f) := by
  cases r <;> rfl

theorem Expr.eval_mapLines (store : Store) (e : Expr) :
    (e.mapLines f).eval store = (e.eval store).mapError (RuntimeError.mapLine f) := by
  induction e with
  | literal value line => rfl
  | var name line => rfl
  | negate operand line ih =>
    simp only [mapLines, eval, ih]
    cases operand.eval store with
    | ok v => exact located_mapLine f line _
    | error e => rfl
  | binary left op right line ihl ihr =>
    simp only [mapLines, eval, ihl, ihr]
    cases left.eval store with
    | error e => rfl
    | ok a =>
      cases right.eval store with
      | error e => rfl
      | ok b => exact located_mapLine f line _

theorem Expr.eval_mapLines_of_ok {store : Store} {e : Expr} {v : Value} (h : e.eval store = .ok v) :
    (e.mapLines f).eval store = .ok v := by
  rw [eval_mapLines, h]
  rfl

theorem Stmt.expr_mapLines (s : Stmt) : (s.mapLines f).expr = s.expr.mapLines f := by
  cases s <;> rw [Stmt.mapLines] <;> rfl

theorem Run.mapLines_after (r : Run) (before : List Stmt) :
    (r.after before).mapLines f = (r.mapLines f).after (before.map (Stmt.mapLines f)) := by
  simp [Run.mapLines, Run.after]

theorem Runs.mapLines {p : Program} {state : State} {r : Run} (h : Runs p state r) :
    Runs (p.mapLines f) state (r.mapLines f) := by
  induction h with
  | nil state => exact .nil state
  | stop he =>
    refine .stop ?_
    rw [Stmt.expr_mapLines, Expr.eval_mapLines, he]
    rfl
  | print hv _ ih =>
    rw [Run.mapLines_after]
    exact .print (Expr.eval_mapLines_of_ok f hv) ih
  | assign hv _ ih =>
    rw [Run.mapLines_after]
    exact .assign (Expr.eval_mapLines_of_ok f hv) ih
  | skip hv ht _ ih =>
    rw [Run.mapLines_after]
    exact .skip (Expr.eval_mapLines_of_ok f hv) ht ih
  | enter hv ht _ hinner _ ihbody ih =>
    rw [Run.mapLines_after]
    exact .enter (Expr.eval_mapLines_of_ok f hv) ht ihbody (Option.map_eq_none_iff.mpr hinner) ih
  | fail hv ht _ hinner ihbody =>
    rw [Run.mapLines_after]
    exact .fail (Expr.eval_mapLines_of_ok f hv) ht ihbody
      (Option.map_eq_some_iff.mpr ⟨_, hinner, rfl⟩)

theorem Program.run_mapLines (p : Program) (state : State) :
    (p.mapLines f).run state = (p.run state).mapLines f :=
  ((p.runs state).mapLines f).run_eq

end

/-- Programs that differ in their lines only go through the same states and fail alike. -/
theorem Program.run_sameUpToLines {p q : Program} (h : p.SameUpToLines q) (state : State) :
    (p.run state).state = (q.run state).state ∧
      Option.Rel RuntimeError.SameUpToLine (p.run state).error? (q.run state).error? := by
  have hrun : (p.run state).mapLines (fun _ => 0) = (q.run state).mapLines fun _ => 0 := by
    rw [← Program.run_mapLines, ← Program.run_mapLines, h]
  obtain ⟨hstate, -, herror⟩ := Run.mk.inj hrun
  refine ⟨hstate, ?_⟩
  cases hp : (p.run state).error? with
  | none =>
    rw [hp] at herror
    rw [Option.map_eq_none_iff.mp herror.symm]
    exact .none
  | some d =>
    rw [hp] at herror
    obtain ⟨e, he, hde⟩ := Option.map_eq_some_iff.mp herror.symm
    rw [he]
    exact .some hde.symm

end Scriptlet
