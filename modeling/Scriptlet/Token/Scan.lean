import Scriptlet.Error
import Scriptlet.Token.Lexeme

/-!
Reading a script as tokens: it is cut into lexemes from left to right, every token keeps the line
its lexeme starts on, and the first place that starts no lexeme is an error.
-/
namespace Scriptlet.Token

/-- The tokens of a text whose first character stands on `line`. -/
def scanFrom (line : Nat) (cs : List Char) : Except LexError (List Located) :=
  match _cut : Lexeme.munch? cs with
  | some (lexeme, rest) =>
    let next := line + lexeme.chars.count '\n'
    match lexeme.reading with
    | .token t => (scanFrom next rest).map (⟨t, line⟩ :: ·)
    | .skip => scanFrom next rest
    | .tooLarge => .error (.literalTooLarge line)
  | none =>
    match cs with
    | [] => .ok []
    | c :: _ => .error (.unexpectedCharacter c line)
termination_by cs.length
decreasing_by all_goals exact Lexeme.length_lt_of_munch? _cut

/-- The tokens of a script. Lines count from one. -/
def scan (source : String) : Except LexError (List Located) :=
  scanFrom 1 source.toList

theorem scanFrom_nil (line : Nat) : scanFrom line [] = .ok [] := by
  rw [scanFrom]
  rfl

end Scriptlet.Token
