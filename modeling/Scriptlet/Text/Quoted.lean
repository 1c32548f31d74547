import Scriptlet.Text.Extender
import Scriptlet.Text.Unprintable

/-!
Quoted text. A quote, a backslash, a tab, a line break, a carriage return and NUL have escapes of
two characters. Of all other characters those that can be shown stand for themselves, and the rest
are written by code point in hexadecimal.
-/
namespace Scriptlet.Text

/-- Whether a character can be shown on its own. -/
def isShown (c : Char) : Bool :=
  !isExtender c && !isUnprintable c

/-- A character inside quotes, where `shown` tells the characters that stand for themselves. -/
def escape (shown : Char → Bool) : Char → List Char
  | '\x00' => ['\\', '0']
  | '\t' => ['\\', 't']
  | '\r' => ['\\', 'r']
  | '\n' => ['\\', 'n']
  | '"' => ['\\', '"']
  | '\\' => ['\\', '\\']
  | c =>
    if shown c then [c]
    else '\\' :: 'u' :: '\x7b' :: Nat.toDigits 16 c.toNat ++ ['\x7d']

/-- A text in quotes. -/
def quoted (shown : Char → Bool) (s : String) : String :=
  String.ofList ('"' :: s.toList.flatMap (escape shown) ++ ['"'])

end Scriptlet.Text
