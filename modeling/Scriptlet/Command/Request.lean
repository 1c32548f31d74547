/-!
The command line. Options and the one operand come in any order, short options combine, and nothing
after `--` is an option. Arguments are read from the left: help and version are granted at once, and
the first fault refuses the whole line.
-/
namespace Scriptlet.Command

/-- What is printed of a script. -/
inductive Emit where
  | output | tokens | tree
  deriving DecidableEq

def Emit.ofName? : String → Option Emit
  | "output" => some .output
  | "tokens" => some .tokens
  | "ast" => some .tree
  | _ => none

/-- A script given on the line or kept in a file. -/
inductive Source where
  | inline (script : String)
  | file (path : String)
  deriving DecidableEq

inductive Request where
  | help
  | version
  | run (source : Source) (emit : Emit)
  deriving DecidableEq

/-- What the arguments read so far have settled. -/
structure Draft where
  contents? : Option String
  isFile : Bool
  emit? : Option Emit
  deriving DecidableEq

namespace Draft

def empty : Draft := ⟨none, false, none⟩

/-- Nothing may be settled twice. -/
def setContents? (d : Draft) (contents : String) : Option Draft :=
  if d.contents?.isSome then none else some { d with contents? := some contents }

def setFile? (d : Draft) : Option Draft :=
  if d.isFile then none else some { d with isFile := true }

def setEmit? (d : Draft) (name : String) : Option Draft :=
  if d.emit?.isSome then none
  else (Emit.ofName? name).map fun emit => { d with emit? := some emit }

/-- The request of a finished line, which has to name a script. -/
def request? (d : Draft) : Option Request :=
  d.contents?.map fun contents =>
    .run (if d.isFile then .file contents else .inline contents) (d.emit?.getD .output)

end Draft

/-- How reading goes on after one argument. -/
inductive Step where
  | next (draft : Draft)
  | wantsEmit (draft : Draft)
  | grant (request : Request)
  | refuse
  deriving DecidableEq

def Step.ofDraft : Option Draft → Step
  | some draft => next draft
  | none => refuse

/-- The letters after a single dash. A value may follow its letter at once or after `=`. -/
def shortOptions (d : Draft) : List Char → Step
  | [] => .next d
  | 'f' :: letters =>
    match d.setFile? with
    | some d => shortOptions d letters
    | none => .refuse
  | 'h' :: _ => .grant .help
  | 'V' :: _ => .grant .version
  | ['e'] => .wantsEmit d
  | 'e' :: '=' :: name => .ofDraft (d.setEmit? (String.ofList name))
  | 'e' :: name => .ofDraft (d.setEmit? (String.ofList name))
  | _ => .refuse

/-- The name after a double dash, with a value after `=` where one is taken. -/
def longOption (d : Draft) (text : List Char) : Step :=
  match String.ofList (text.takeWhile (· != '=')), text.dropWhile (· != '=') with
  | "file", [] => .ofDraft d.setFile?
  | "help", [] => .grant .help
  | "version", [] => .grant .version
  | "emit", [] => .wantsEmit d
  | "emit", _ :: name => .ofDraft (d.setEmit? (String.ofList name))
  | _, _ => .refuse

/-- Whether an argument is taken for options. A lone dash is an operand. -/
def isOption (arg : String) : Bool :=
  match arg.toList with
  | '-' :: _ :: _ => true
  | _ => false

def argument (d : Draft) (arg : String) : Step :=
  match arg.toList with
  | '-' :: '-' :: name => longOption d name
  | '-' :: letter :: letters => shortOptions d (letter :: letters)
  | _ => .ofDraft (d.setContents? arg)

/-- The request of the arguments after those that `d` has settled. -/
def readArguments (d : Draft) : List String → Option Request
  | [] => d.request?
  | "--" :: operands => (operands.foldlM Draft.setContents? d).bind Draft.request?
  | arg :: rest =>
    match argument d arg, rest with
    | .next d, rest => readArguments d rest
    | .wantsEmit _, [] => none
    | .wantsEmit d, value :: rest =>
      if isOption value then none
      else
        match d.setEmit? value with
        | some d => readArguments d rest
        | none => none
    | .grant request, _ => some request
    | .refuse, _ => none

/-- The request of a command line, unless it is refused. -/
def Request.ofArguments? (args : List String) : Option Request :=
  readArguments .empty args

end Scriptlet.Command
