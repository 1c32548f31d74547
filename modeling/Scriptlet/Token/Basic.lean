import Scriptlet.Operator

/-!
Tokens of a script and the kinds that syntax errors name them by. A token list read from a script
places each token on its line.
-/
namespace Scriptlet

/-- An operator token carries any operator. Scripts give arithmetic as `op` and comparison as
`compare`, and a blank never survives reading. -/
inductive Token where
  | number (value : Int64)
  | text (value : String)
  | print
  | cond
  | leftBrace
  | rightBrace
  | assign
  | op (operator : Operator)
  | compare (operator : Operator)
  | leftParen
  | rightParen
  | name (value : String)
  | blank
  deriving DecidableEq

namespace Token

inductive Kind where
  | number | text | print | cond | leftBrace | rightBrace | assign | op | compare
  | leftParen | rightParen | name | blank
  deriving DecidableEq

def Kind.label : Kind → String
  | number => "NUMBER"
  | text => "STRING"
  | print => "PRINT"
  | cond => "IF"
  | leftBrace => "LBRACE"
  | rightBrace => "RBRACE"
  | assign => "ASSIGN"
  | op => "OP"
  | compare => "COMPARE"
  | leftParen => "LPAREN"
  | rightParen => "RPAREN"
  | name => "IDENTIFIER"
  | blank => "WHITESPACE"

def kind : Token → Kind
  | number _ => .number
  | text _ => .text
  | print => .print
  | cond => .cond
  | leftBrace => .leftBrace
  | rightBrace => .rightBrace
  | assign => .assign
  | op _ => .op
  | compare _ => .compare
  | leftParen => .leftParen
  | rightParen => .rightParen
  | name _ => .name
  | blank => .blank

/-- The operator between two operands that a token stands for, whichever kind carries it. -/
def operator? : Token → Option Operator
  | op o | compare o => some o
  | _ => none

end Token

/-- A token and the line it starts on. -/
structure Located where
  token : Token
  line : Nat
  deriving DecidableEq

end Scriptlet
