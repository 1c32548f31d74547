import Scriptlet.Token.Basic
import Scriptlet.Value.Fault

/-!
The ways a script fails, and the one line of text each failure is reported by.
-/
namespace Scriptlet

/-- A script that cannot be cut into tokens. -/
inductive LexError where
  | unexpectedCharacter (found : Char) (line : Nat)
  | literalTooLarge (line : Nat)
  deriving DecidableEq

def LexError.message : LexError → String
  | unexpectedCharacter found line =>
    s!"Syntax error on line {line}: Unexpected character '{found}'."
  | literalTooLarge line => s!"Syntax error on line {line}: Literal is too large."

/-- What a token list that ends too early lacks. -/
inductive Wanted where
  | token (kind : Token.Kind)
  | expression
  | statement
  deriving DecidableEq

def Wanted.label : Wanted → String
  | token kind => kind.label
  | expression => "expression"
  | statement => "statement"

/-- A token list that is no program. -/
inductive ParseError where
  | unexpectedToken (found : Token.Kind) (line : Nat)
  | expectedToken (expected found : Token.Kind) (line : Nat)
  | unexpectedEnd (expected : Wanted)
  deriving DecidableEq

def ParseError.message : ParseError → String
  | unexpectedToken found line =>
    s!"Syntax error on line {line}: Unexpected token {found.label}."
  | expectedToken expected found line =>
    s!"Syntax error on line {line}: Expected {expected.label}, found {found.label}."
  | unexpectedEnd expected =>
    s!"Syntax error: Unexpected end of input, expected {expected.label}."

/-- A fault and the line of the operator it arose at. -/
structure RuntimeError where
  fault : Fault
  line : Nat
  deriving DecidableEq

def RuntimeError.message (e : RuntimeError) : String :=
  s!"Runtime error on line {e.line}: {e.fault.message}"

inductive ScriptError where
  | lex (error : LexError)
  | parse (error : ParseError)
  | runtime (error : RuntimeError)
  deriving DecidableEq

def ScriptError.message : ScriptError → String
  | lex error => error.message
  | parse error => error.message
  | runtime error => error.message

end Scriptlet
