import Scriptlet.Token.Basic
import Scriptlet.Word.Basic

/-!
Lexemes, the pieces a script is cut into. At every place the longest piece is taken: a run of
digits, a run of word characters, a text up to its closing quote, a run of blanks, a line break, or
a symbol, two characters before one. `length_lt_of_munch?` says that a cut makes progress.
-/
namespace Scriptlet

inductive Lexeme where
  | digits (chars : List Char)
  | word (chars : List Char)
  | quoted (body : List Char)
  | blanks (chars : List Char)
  | newline
  | symbol (chars : List Char) (token : Token)
  deriving DecidableEq

namespace Lexeme

/-- The characters of the script that the lexeme covers. -/
def chars : Lexeme → List Char
  | digits cs | word cs | blanks cs | symbol cs _ => cs
  | quoted body => '"' :: body ++ ['"']
  | newline => ['\n']

/-- Words are made of ASCII letters and underscores. -/
def isWordChar (c : Char) : Bool :=
  c.isAlpha || c == '_'

def isBlank (c : Char) : Bool :=
  c == ' ' || c == '\t' || c == '\r'

/-- The symbols of the language, a longer one before those it starts with. -/
def symbols : List (List Char × Token) :=
  [(['<', '='], .compare .lessEqual),
   (['>', '='], .compare .greaterEqual),
   (['=', '='], .compare .equal),
   (['<'], .compare .less),
   (['>'], .compare .greater),
   (['='], .assign),
   (['+'], .op .add),
   (['-'], .op .sub),
   (['*'], .op .mul),
   (['/'], .op .div),
   (['\x7b'], .leftBrace),
   (['\x7d'], .rightBrace),
   (['('], .leftParen),
   ([')'], .rightParen)]

/-- The longest lexeme at the front of a text, with the text after it. A text whose closing quote
is missing is no lexeme. -/
def munch? : List Char → Option (Lexeme × List Char)
  | [] => none
  | c :: cs =>
    if c.isDigit then
      some (digits (c :: cs.takeWhile Char.isDigit), cs.dropWhile Char.isDigit)
    else if isWordChar c then
      some (word (c :: cs.takeWhile isWordChar), cs.dropWhile isWordChar)
    else if isBlank c then
      some (blanks (c :: cs.takeWhile isBlank), cs.dropWhile isBlank)
    else if c = '\n' then
      some (newline, cs)
    else if c = '"' then
      match cs.dropWhile (· != '"') with
      | [] => none
      | _ :: rest => some (quoted (cs.takeWhile (· != '"')), rest)
    else
      (symbols.find? fun entry => entry.1.isPrefixOf (c :: cs)).map fun entry =>
        (symbol entry.1 entry.2, (c :: cs).drop entry.1.length)

/-- Dropping up to a character leaves that character in front. -/
theorem dropWhile_ne_eq_cons {q c : Char} {cs rest : List Char}
    (h : cs.dropWhile (· != q) = c :: rest) : cs = cs.takeWhile (· != q) ++ q :: rest := by
  have hc := List.head_dropWhile_not (· != q) (l := cs) (by simp [h])
  have hcut := List.takeWhile_append_dropWhile (p := (· != q)) (l := cs)
  simp only [h, List.head_cons, bne_eq_false_iff_eq] at hc
  rw [h, hc] at hcut
  exact hcut.symm

/-- A lexeme and what follows it are the text it was cut from. -/
theorem chars_append_of_munch? {cs rest : List Char} {l : Lexeme}
    (h : munch? cs = some (l, rest)) : l.chars ++ rest = cs := by
  revert h
  fun_cases munch? cs with
  | case1 | case6 => simp
  | case2 | case3 | case4 | case5 =>
    rintro ⟨⟩
    simp [chars]
  | case7 cs _ _ hdrop =>
    rintro ⟨⟩
    simp [chars, ← dropWhile_ne_eq_cons hdrop]
  | case8 c cs =>
    intro h
    obtain ⟨entry, hfind, h⟩ := Option.map_eq_some_iff.mp h
    cases h
    obtain ⟨tail, htail⟩ : entry.1 <+: c :: cs := by simpa using List.find?_some hfind
    simp [chars, ← htail]

theorem symbols_ne_nil : ∀ entry ∈ symbols, entry.1 ≠ [] := by decide

theorem chars_ne_nil_of_munch? {cs rest : List Char} {l : Lexeme}
    (h : munch? cs = some (l, rest)) : l.chars ≠ [] := by
  revert h
  fun_cases munch? cs with
  | case1 | case6 => simp
  | case2 | case3 | case4 | case5 | case7 =>
    rintro ⟨⟩
    simp [chars]
  | case8 c cs =>
    intro h
    obtain ⟨entry, hfind, h⟩ := Option.map_eq_some_iff.mp h
    cases h
    exact symbols_ne_nil entry (List.mem_of_find?_eq_some hfind)

theorem length_lt_of_munch? {cs rest : List Char} {l : Lexeme}
    (h : munch? cs = some (l, rest)) : rest.length < cs.length := by
  have hpos := List.length_pos_iff.mpr (chars_ne_nil_of_munch? h)
  rw [← chars_append_of_munch? h, List.length_append]
  omega

/-- What a lexeme contributes to the token list. -/
inductive Reading where
  | token (t : Token)
  | skip
  | tooLarge
  deriving DecidableEq

/-- The number a run of digits denotes, when it fits a word. -/
def number? (ds : List Char) : Option Int64 :=
  Word.ofInt? (Int.ofNat (Nat.ofDigitChars 10 ds 0))

/-- A word is a keyword or a name. -/
def ofWord (cs : List Char) : Token :=
  if cs = ['p', 'r', 'i', 'n', 't'] then .print
  else if cs = ['i', 'f'] then .cond
  else .name (String.ofList cs)

def reading : Lexeme → Reading
  | digits cs => (number? cs).elim .tooLarge fun n => .token (.number n)
  | word cs => .token (ofWord cs)
  | quoted body => .token (.text (String.ofList body))
  | symbol _ t => .token t
  | blanks _ | newline => .skip

end Lexeme

end Scriptlet
