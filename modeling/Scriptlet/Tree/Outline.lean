import Scriptlet.Text.Quoted
import Scriptlet.Tree.Basic

/-!
Syntax trees as text, in outline form. Every entry ends in a comma. An entry that holds others opens
a bracket, lists them one level deeper and closes the bracket on a line of its own.
-/
namespace Scriptlet

/-- A line of an outline and how deep it stands. -/
structure Outline.Line where
  depth : Nat
  text : String
  deriving DecidableEq

namespace Outline

/-- Each level is indented by four more spaces. -/
def Line.render (l : Line) : String :=
  String.ofList (List.replicate (4 * l.depth) ' ') ++ l.text

/-- An entry on one line. -/
def leaf (depth : Nat) (label text : String) : List Line :=
  [⟨depth, label ++ text ++ ","⟩]

/-- An entry that holds others between two brackets. -/
def group (depth : Nat) (label opening closing : String) (inner : List Line) : List Line :=
  ⟨depth, label ++ opening⟩ :: inner ++ [⟨depth, closing ++ ","⟩]

/-- A node of a tree: its named parts in braces, the line number last. -/
def node (depth : Nat) (label name : String) (parts : List Line) (line : Nat) : List Line :=
  group depth label (name ++ " \x7b") "\x7d" (parts ++ leaf (depth + 1) "line: " line.repr)

end Outline

open Outline

def Operator.title : Operator → String
  | add => "Add"
  | sub => "Sub"
  | mul => "Mul"
  | div => "Div"
  | less => "Less"
  | greater => "Greater"
  | lessEqual => "LessEqual"
  | greaterEqual => "GreaterEqual"
  | equal => "Equal"

def Literal.outline (shown : Char → Bool) (depth : Nat) : Literal → List Line
  | int n => group depth "value: " "Integer(" ")" (leaf (depth + 1) "" n.toInt.repr)
  | text s => group depth "value: " "Text(" ")" (leaf (depth + 1) "" (Text.quoted shown s))

def Expr.outline (shown : Char → Bool) (depth : Nat) (label : String) : Expr → List Line
  | literal value line => node depth label "Literal" (value.outline shown (depth + 1)) line
  | var name line =>
    node depth label "Variable" (leaf (depth + 1) "name: " (Text.quoted shown name)) line
  | negate operand line =>
    node depth label "UnaryOp"
      (leaf (depth + 1) "op: " "Negate" ++ operand.outline shown (depth + 1) "expr: ") line
  | binary left op right line =>
    node depth label "BinaryOp"
      (left.outline shown (depth + 1) "left: " ++ leaf (depth + 1) "op: " op.title ++
        right.outline shown (depth + 1) "right: ") line

mutual

def Stmt.outline (shown : Char → Bool) (depth : Nat) (s : Stmt) : List Line :=
  match s with
  | .print value line =>
    node depth "" "Print" (value.outline shown (depth + 1) "expr: ") line
  | .assign name value line =>
    node depth "" "Assignment"
      (leaf (depth + 1) "name: " (Text.quoted shown name) ++
        value.outline shown (depth + 1) "value: ") line
  | .cond condition body line =>
    node depth "" "If"
      (condition.outline shown (depth + 1) "condition: " ++
        match body with
        | [] => leaf (depth + 1) "body: " "[]"
        | first :: rest =>
          group (depth + 1) "body: " "[" "]" (Stmt.outlines shown (depth + 2) (first :: rest))) line

def Stmt.outlines (shown : Char → Bool) (depth : Nat) (body : List Stmt) : List Line :=
  match body with
  | [] => []
  | s :: rest => s.outline shown depth ++ Stmt.outlines shown depth rest

end

/-- A program as text: its statements in one pair of brackets. -/
def Program.outline (shown : Char → Bool) : Program → String
  | [] => "[]"
  | p =>
    "\n".intercalate (["["] ++ (Stmt.outlines shown 1 p).map Line.render ++ ["]"])

end Scriptlet
