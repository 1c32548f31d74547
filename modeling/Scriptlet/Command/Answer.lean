import Scriptlet.Command.Request
import Scriptlet.Script
import Scriptlet.Token.Listing
import Scriptlet.Tree.Outline

/-!
What the command does with a request. Output goes to the standard output with one line break after
it, a failure goes to the standard error, and the exit code tells a failed script from a refused
command line.
-/
namespace Scriptlet.Command

structure Answer where
  exit : UInt8
  stdout : String
  stderr : String
  deriving DecidableEq

namespace Answer

def success (stdout : String) : Answer := ⟨0, stdout, ""⟩

def failure (message : String) : Answer := ⟨1, "", message ++ "\n"⟩

def usage : String := "Usage: minnow [OPTIONS] <CONTENTS>\n"

def refusal : Answer := ⟨2, "", usage⟩

def version : Answer := success "minnow 0.1.0\n"

def help : Answer :=
  success ("A tiny imperative scripting language: lexer, recursive-descent parser and " ++
    "tree-walking interpreter.\n\n" ++ usage ++ "\n" ++
    "Arguments:\n" ++
    "  <CONTENTS>  \n\n" ++
    "Options:\n" ++
    "  -f, --file         Tells minnow to look at a file instead of a script\n" ++
    "  -e, --emit <EMIT>  What to print: the program's output, its tokens, or its syntax tree " ++
    "[default: output] [possible values: output, tokens, ast]\n" ++
    "  -h, --help         Print help\n" ++
    "  -V, --version      Print version\n")

end Answer

/-- The text that a request asks for. -/
def Emit.text (script : String) : Emit → Except ScriptError String
  | output => Script.output script
  | tokens => ((Token.scan script).map (Token.listing Text.isShown)).mapError .lex
  | tree => (Script.program script).map (Program.outline Text.isShown)

/-- Prints a text unless it is empty. -/
def Answer.ofText : Except ScriptError String → Answer
  | .ok text => success (if text = "" then "" else text ++ "\n")
  | .error e => failure ("Error: " ++ e.message)

def Answer.unreadable (path : String) : Answer :=
  failure s!"Failed to read the input file '{path}'. Perhaps this file does not exist?"

/-- Answers a request, where `read` gives the bytes of a file. A script has to be valid UTF-8. -/
def Request.answer {m : Type → Type} [Monad m] (read : String → m (Option ByteArray)) :
    Request → m Answer
  | help => pure .help
  | version => pure .version
  | run (.inline script) emit => pure (.ofText (emit.text script))
  | run (.file path) emit => do
    match (← read path).bind String.fromUTF8? with
    | some script => return .ofText (emit.text script)
    | none => return .unreadable path

/-- Answers a command line. -/
def answer {m : Type → Type} [Monad m] (read : String → m (Option ByteArray))
    (args : List String) : m Answer :=
  match Request.ofArguments? args with
  | some request => request.answer read
  | none => pure .refusal

end Scriptlet.Command
