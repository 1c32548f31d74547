import Scriptlet.Parse.Stmt
import Scriptlet.Run
import Scriptlet.Token.Scan

/-!
Whole scripts, from source text to output. Along the way a script reports events: its tokens were
read, its statements were read, a statement was begun, it finished or it failed.
-/
namespace Scriptlet

inductive Event where
  | tokenized (tokens : Nat)
  | parsed (statements : Nat)
  | executing (line : Nat)
  | finished (lines : Nat)
  | failed (error : ScriptError)
  deriving DecidableEq

namespace Event

/-- Events about single statements are finer than those about the script. -/
inductive Level where
  | debug | trace
  deriving DecidableEq

def level : Event → Level
  | executing _ => .trace
  | _ => .debug

def Level.label : Level → String
  | debug => "DEBUG"
  | trace => "TRACE"

def message : Event → String
  | tokenized _ => "tokenized source"
  | parsed _ => "parsed program"
  | executing _ => "executing statement"
  | finished _ => "program finished"
  | failed _ => "script failed"

/-- The name and the text of what an event tells beside its message. -/
def detail : Event → String × String
  | tokenized tokens => ("tokens", tokens.repr)
  | parsed statements => ("statements", statements.repr)
  | executing line => ("line", line.repr)
  | finished lines => ("lines", lines.repr)
  | failed error => ("error", error.message)

end Event

/-- A script's output, or why it has none, and the events on the way. -/
structure Execution where
  result : Except ScriptError String
  events : List Event

namespace Execution

/-- The execution of a script that failed after `events`. -/
def failure (error : ScriptError) (events : List Event) : Execution :=
  ⟨.error error, events ++ [.failed error]⟩

/-- The text an execution is shown as. -/
def text (e : Execution) : String :=
  match e.result with
  | .ok output => output
  | .error error => "Error: " ++ error.message

end Execution

namespace Script

/-- The program that a script spells out. -/
def program (source : String) : Except ScriptError Program :=
  match Token.scan source with
  | .error e => .error (.lex e)
  | .ok tokens => (Parse.program tokens).mapError .parse

/-- Reads a script and runs it from the initial state. -/
def execute (source : String) : Execution :=
  match Token.scan source with
  | .error e => .failure (.lex e) []
  | .ok tokens =>
    match Parse.program tokens with
    | .error e => .failure (.parse e) [.tokenized tokens.length]
    | .ok program =>
      let run := program.run .initial
      let events : List Event := [.tokenized tokens.length, .parsed program.length] ++
        run.begun.map fun s => .executing s.line
      match run.error? with
      | some e => .failure (.runtime e) events
      | none =>
        ⟨.ok ("\n".intercalate run.state.output.toList),
          events ++ [.finished run.state.output.size]⟩

/-- The lines a script prints, joined by line breaks. -/
def output (source : String) : Except ScriptError String :=
  (execute source).result

end Script

end Scriptlet
