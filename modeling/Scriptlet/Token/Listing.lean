import Scriptlet.Text.Quoted
import Scriptlet.Token.Basic

/-!
Token lists as text: one token a line, after the number of the line it stands on.
-/
namespace Scriptlet

/-- The kind of a token, with what the token carries in parentheses. -/
def Token.display (shown : Char → Bool) (t : Token) : String :=
  match t with
  | .number n => s!"{t.kind.label}({n.toInt.repr})"
  | .text s => s!"{t.kind.label}({Text.quoted shown s})"
  | .op o | .compare o => s!"{t.kind.label}({o.symbol})"
  | .name x => s!"{t.kind.label}({x})"
  | _ => t.kind.label

def Located.display (shown : Char → Bool) (t : Located) : String :=
  s!"{t.line}:{t.token.display shown}"

def Token.listing (shown : Char → Bool) (ts : List Located) : String :=
  "\n".intercalate (ts.map (Located.display shown))

end Scriptlet
