import Scriptlet.Proofs.Guarded.Evaluation
import Scriptlet.Proofs.Guarded.Scan
import Scriptlet.Proofs.Run.Errors

/-!
Whole scripts with partial operations. `execute_never_panics` says that a script runs to its end
without leaving the domain of any of them, whatever its source.
-/
namespace Scriptlet.Guarded

def execute (source : String) : Except Panic Execution := do
  match ← (scan source).run with
  | .error e => return .failure (.lex e) []
  | .ok tokens =>
    match Parse.program tokens with
    | .error e => return .failure (.parse e) [.tokenized tokens.length]
    | .ok program =>
      let run ← runProgram program .initial
      let events : List Event := [.tokenized tokens.length, .parsed program.length] ++
        run.begun.map fun s => .executing s.line
      match run.error? with
      | some e => return .failure (.runtime e) events
      | none =>
        return ⟨.ok ("\n".intercalate run.state.output.toList),
          events ++ [.finished run.state.output.size]⟩

theorem execute_eq (source : String) : execute source = .ok (Script.execute source) := by
  have hscan : scan source = calm (Token.scan source) := scanFrom_eq 1 source.toList
  rw [execute, Script.execute, hscan]
  cases Token.scan source with
  | error e => rfl
  | ok tokens =>
    simp only [run_calm, bind, Except.bind]
    cases Parse.program tokens with
    | error e => rfl
    | ok program =>
      simp only [runProgram_eq]
      cases (program.run .initial).error? <;> rfl

/-- No script panics. Neither does any expression, statement or program on its own, in any state,
and no operator is used as one of the other family, where both tables of operators do panic. -/
theorem execute_never_panics :
    (∀ source, execute source = .ok (Script.execute source)) ∧
    (∀ store e, (eval store e).run = .ok (e.eval store)) ∧
    (∀ s state, runStmt s state = .ok (s.run state)) ∧
    (∀ p state, runProgram p state = .ok (p.run state)) ∧
    (∀ source used line,
      (Script.execute source).result ≠ .error (.runtime ⟨.misapplied used, line⟩)) ∧
    (∀ store (e : Expr) used line, e.eval store ≠ .error ⟨.misapplied used, line⟩) ∧
    (∀ (s : Stmt) state used line, (s.run state).error? ≠ some ⟨.misapplied used, line⟩) ∧
    (∀ (p : Program) state used line, (p.run state).error? ≠ some ⟨.misapplied used, line⟩) ∧
    (∀ op a b, scalar op a b = panic .scalar ↔ op.isComparison = true) ∧
    (∀ op order, ordering op order = panic .ordering ↔ op.isComparison = false) := by
  refine ⟨execute_eq, ?_, runStmt_eq, runProgram_eq, Script.execute_ne_misapplied,
    Expr.eval_ne_misapplied, Stmt.run_ne_misapplied, Program.run_ne_misapplied,
    fun _ _ _ => scalar_eq_panic_iff, fun _ _ => ordering_eq_panic_iff⟩
  intro store e
  rw [eval_eq_calm, run_calm]

end Scriptlet.Guarded
