import Scriptlet.Proofs.Grammar.Origins
import Scriptlet.Proofs.Grammar.Programs
import Scriptlet.Proofs.Lexical.Lines
import Scriptlet.Proofs.Run.Effects

/-!
The events of a script. They tell how far it got, and one by one the statements that its run began:
some of those of the program in the order of the text, down to the one that failed. Tokens stand on
lines that never decrease, hence so do these statements (`events_record_run`).
-/
namespace Scriptlet.Script

open Token (scan)
open Lexical (pairwise_line_of_scan)

variable {source : String} {tokens : List Located} {p : Program} {e : RuntimeError}

theorem pairwise_line_begun (h : scan source = .ok tokens) (hp : Parse.program tokens = .ok p)
    (state : State) : (p.run state).begun.Pairwise fun s t => s.line ≤ t.line := by
  have hstatements := (Grammar.derives_of_program hp).pairwise_line (pairwise_line_of_scan h)
  exact hstatements.sublist (p.runs state).selects.sublist

/-- The statement begun last is the one that failed, and it starts no further down than the operator
that the error is about. -/
theorem exists_last_begun (h : scan source = .ok tokens) (hp : Parse.program tokens = .ok p)
    {state : State} (he : (p.run state).error? = some e) :
    ∃ front s, (p.run state).begun = front ++ [s] ∧
      s.expr.eval (p.run state).state.store = .error e ∧ s.line ≤ e.line := by
  obtain ⟨front, s, hbegun, hmem, hs⟩ := Program.exists_stop he
  obtain ⟨node, hnode, op, hop, hline, -⟩ := Expr.raises_of_error hs
  have hheld := (Grammar.derives_of_program hp).holds hmem
  refine ⟨front, s, hbegun, hs, ?_⟩
  rw [← hline]
  exact hheld.line_le (pairwise_line_of_scan h) hnode hop

/-- A script that cannot be cut into tokens only reports that it failed, and one that is no program
reports its tokens before. Any other reports its tokens, its program, the line of each statement
begun and the end. The statements begun are those that the run goes through step by step and, where
it fails, the one it stops at: some of the program in pre-order, a nested one only after the `if`
around it, on lines that never decrease. At the end of a success stands the number of `print`
statements among them. An error arose in the expression of the last of them, on its line or further
down. -/
theorem events_record_run (source : String) :
    match scan source with
    | .error e => (execute source).events = [.failed (.lex e)]
    | .ok tokens =>
      match Parse.program tokens with
      | .error e => (execute source).events = [.tokenized tokens.length, .failed (.parse e)]
      | .ok p =>
        let run := p.run .initial
        (∃ last, (execute source).events = [.tokenized tokens.length, .parsed p.length] ++
            run.begun.map (fun s => .executing s.line) ++ [last] ∧
          match (execute source).result with
          | .ok _ => last = .finished (run.begun.countP Stmt.isPrint)
          | .error error => last = .failed error ∧ ∃ e front s, error = .runtime e ∧
            run.begun = front ++ [s] ∧ s.expr.eval run.state.store = .error e ∧ s.line ≤ e.line) ∧
        (∃ trail rest, Trail (p, .initial) trail (rest, run.state) ∧ run.Leaves rest ∧
          run.begun = trail.map Prod.fst ++ rest.head?.toList) ∧
        Selects p run.begun ∧ run.begun.Sublist p.statements ∧
        run.begun.Pairwise fun s t => s.line ≤ t.line := by
  cases hscan : scan source with
  | error e =>
    dsimp only
    rw [execute_of_lexError hscan]
    rfl
  | ok tokens =>
    dsimp only
    cases hp : Parse.program tokens with
    | error e =>
      dsimp only
      rw [execute_of_parseError hscan hp]
      rfl
    | ok p =>
      have hruns := p.runs .initial
      have hselects := hruns.selects
      refine ⟨?_, hruns.exists_trail, hselects, hselects.sublist,
        pairwise_line_begun hscan hp .initial⟩
      cases he : (p.run .initial).error? with
      | none =>
        have hsize := hruns.size_output he
        rw [show State.initial.output.size = 0 from rfl, Nat.zero_add] at hsize
        rw [execute_of_success hscan hp he]
        exact ⟨_, rfl, congrArg Event.finished hsize⟩
      | some e =>
        obtain ⟨front, s, hbegun, hs, hline⟩ := exists_last_begun hscan hp he
        rw [execute_of_runtimeError hscan hp he]
        exact ⟨_, rfl, rfl, e, front, s, rfl, hbegun, hs, hline⟩

end Scriptlet.Script
