import Scriptlet.Script

/-!
The stages of a script. It fails while its tokens are read, while its program is read or while it
runs, or it runs to its end, and each way has its own result and events.
-/
namespace Scriptlet.Script

variable {source : String} {tokens : List Located} {p : Program}

theorem execute_of_lexError {e : LexError} (h : Token.scan source = .error e) :
    execute source = .failure (.lex e) [] := by
  simp only [execute, h]

theorem execute_of_parseError {e : ParseError} (h : Token.scan source = .ok tokens)
    (hp : Parse.program tokens = .error e) :
    execute source = .failure (.parse e) [.tokenized tokens.length] := by
  simp only [execute, h, hp]

theorem execute_of_runtimeError {e : RuntimeError} (h : Token.scan source = .ok tokens)
    (hp : Parse.program tokens = .ok p) (he : (p.run .initial).error? = some e) :
    execute source = .failure (.runtime e) ([.tokenized tokens.length, .parsed p.length] ++
      (p.run .initial).begun.map fun s => .executing s.line) := by
  simp only [execute, h, hp, he]

theorem execute_of_success (h : Token.scan source = .ok tokens)
    (hp : Parse.program tokens = .ok p) (he : (p.run .initial).error? = none) :
    execute source = ⟨.ok ("\n".intercalate (p.run .initial).state.output.toList),
      [.tokenized tokens.length, .parsed p.length] ++
        (p.run .initial).begun.map (fun s => .executing s.line) ++
        [.finished (p.run .initial).state.output.size]⟩ := by
  simp only [execute, h, hp, he]

/-- The ways a script ends, each with what its stages gave. -/
inductive Ends (source : String) : Except ScriptError String → Prop
  | lex {e : LexError} : Token.scan source = .error e → Ends source (.error (.lex e))
  | parse {tokens : List Located} {e : ParseError} : Token.scan source = .ok tokens →
    Parse.program tokens = .error e → Ends source (.error (.parse e))
  | runtime {tokens : List Located} {p : Program} {e : RuntimeError} :
    Token.scan source = .ok tokens → Parse.program tokens = .ok p →
    (p.run .initial).error? = some e → Ends source (.error (.runtime e))
  | finish {tokens : List Located} {p : Program} : Token.scan source = .ok tokens →
    Parse.program tokens = .ok p → (p.run .initial).error? = none →
    Ends source (.ok ("\n".intercalate (p.run .initial).state.output.toList))

theorem ends_output (source : String) : Ends source (output source) := by
  unfold output
  cases hscan : Token.scan source with
  | error e =>
    rw [execute_of_lexError hscan]
    exact .lex hscan
  | ok tokens =>
    cases hp : Parse.program tokens with
    | error e =>
      rw [execute_of_parseError hscan hp]
      exact .parse hscan hp
    | ok p =>
      cases he : (p.run .initial).error? with
      | none =>
        rw [execute_of_success hscan hp he]
        exact .finish hscan hp he
      | some e =>
        rw [execute_of_runtimeError hscan hp he]
        exact .runtime hscan hp he

theorem scan_of_output {e : LexError} (h : output source = .error (.lex e)) :
    Token.scan source = .error e := by
  have hends := ends_output source
  rw [h] at hends
  cases hends with
  | lex hscan => exact hscan

/-- A script that fails while it runs was read as a program, and the run of that program failed. -/
theorem exists_run_of_output {e : RuntimeError} (h : output source = .error (.runtime e)) :
    ∃ tokens p, Token.scan source = .ok tokens ∧ Parse.program tokens = .ok p ∧
      (p.run .initial).error? = some e := by
  have hends := ends_output source
  rw [h] at hends
  cases hends with
  | runtime hscan hp he => exact ⟨_, _, hscan, hp, he⟩

/-- A script that succeeds prints the lines of its run. -/
theorem exists_lines_of_output {text : String} (h : output source = .ok text) :
    ∃ tokens p, Token.scan source = .ok tokens ∧ Parse.program tokens = .ok p ∧
      text = "\n".intercalate (p.run .initial).state.output.toList := by
  have hends := ends_output source
  rw [h] at hends
  cases hends with
  | finish hscan hp => exact ⟨_, _, hscan, hp, rfl⟩

theorem text_of_success {text : String} (h : output source = .ok text) :
    (execute source).text = text := by
  unfold output at h
  simp only [Execution.text, h]

/-- A failure is shown as its message, behind a fixed word. -/
theorem text_of_failure {e : ScriptError} (h : output source = .error e) :
    (execute source).text = "Error: " ++ e.message := by
  unfold output at h
  simp only [Execution.text, h]

end Scriptlet.Script
