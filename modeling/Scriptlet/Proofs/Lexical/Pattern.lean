import Scriptlet.Token.Lexeme

/-!
The lexical grammar, stated on lists of characters without any scanning order: six patterns, the
longest match at a place, a text cut into longest matches, and the token that each piece reads as.
-/
namespace Scriptlet.Lexical

/-- The symbols and the tokens they stand for. -/
inductive Symbol : List Char → Token → Prop where
  | less : Symbol ['<'] (.compare .less)
  | greater : Symbol ['>'] (.compare .greater)
  | lessEqual : Symbol ['<', '='] (.compare .lessEqual)
  | greaterEqual : Symbol ['>', '='] (.compare .greaterEqual)
  | equal : Symbol ['=', '='] (.compare .equal)
  | assign : Symbol ['='] .assign
  | add : Symbol ['+'] (.op .add)
  | sub : Symbol ['-'] (.op .sub)
  | mul : Symbol ['*'] (.op .mul)
  | div : Symbol ['/'] (.op .div)
  | leftBrace : Symbol ['\x7b'] .leftBrace
  | rightBrace : Symbol ['\x7d'] .rightBrace
  | leftParen : Symbol ['('] .leftParen
  | rightParen : Symbol [')'] .rightParen

inductive Pattern where
  | number | text | word | symbol | newline | blanks

def Pattern.Matches : Pattern → List Char → Prop
  | number, w => w ≠ [] ∧ ∀ c ∈ w, '0' ≤ c ∧ c ≤ '9'
  | text, w => ∃ body, '"' ∉ body ∧ w = '"' :: body ++ ['"']
  | word, w => w ≠ [] ∧ ∀ c ∈ w, ('a' ≤ c ∧ c ≤ 'z') ∨ ('A' ≤ c ∧ c ≤ 'Z') ∨ c = '_'
  | symbol, w => ∃ t, Symbol w t
  | newline, w => w = ['\n']
  | blanks, w => w ≠ [] ∧ ∀ c ∈ w, c = ' ' ∨ c = '\t' ∨ c = '\r'

def IsLexeme (w : List Char) : Prop :=
  ∃ p : Pattern, p.Matches w

/-- Maximal munch: no lexeme at the front of the text is longer. -/
structure Longest (w s : List Char) : Prop where
  front : w <+: s
  lexeme : IsLexeme w
  length_le : ∀ v, v <+: s → IsLexeme v → v.length ≤ w.length

/-- A run of digits denotes a number that a word holds. -/
def Fits (w : List Char) : Prop :=
  Pattern.number.Matches w → (Nat.ofDigitChars 10 w 0 : Int) ≤ Int64.maxValue.toInt

/-- The text starts with the pieces, each the longest match in all of the text from there on, and
`rest` is what they leave. -/
structure Cut (s : List Char) (pieces : List (List Char)) (rest : List Char) : Prop where
  concat : s = pieces.flatten ++ rest
  longest : ∀ before w after, pieces = before ++ w :: after →
    Longest w (w ++ after.flatten ++ rest)
  fits : ∀ w ∈ pieces, Fits w

/-- The token that a piece reads as. The two keywords are no names. -/
inductive Reads : List Char → Token → Prop where
  | number {w : List Char} {n : Int64} : Pattern.number.Matches w →
      n.toInt = Nat.ofDigitChars 10 w 0 → Reads w (.number n)
  | text {body : List Char} : '"' ∉ body →
      Reads ('"' :: body ++ ['"']) (.text (String.ofList body))
  | print : Reads ['p', 'r', 'i', 'n', 't'] .print
  | cond : Reads ['i', 'f'] .cond
  | name {w : List Char} : Pattern.word.Matches w → w ≠ ['p', 'r', 'i', 'n', 't'] →
      w ≠ ['i', 'f'] → Reads w (.name (String.ofList w))
  | symbol {w : List Char} {t : Token} : Symbol w t → Reads w t

def IsSpace (w : List Char) : Prop :=
  Pattern.newline.Matches w ∨ Pattern.blanks.Matches w

/-- The tokens are, in order, the readings of the pieces that are no space. -/
inductive Transcribes : List (List Char) → List Token → Prop where
  | nil : Transcribes [] []
  | skip {w : List Char} {pieces : List (List Char)} {ts : List Token} :
      IsSpace w → Transcribes pieces ts → Transcribes (w :: pieces) ts
  | token {w : List Char} {t : Token} {pieces : List (List Char)} {ts : List Token} :
      Reads w t → Transcribes pieces ts → Transcribes (w :: pieces) (t :: ts)

theorem Pattern.Matches.ne_nil {p : Pattern} {w : List Char} (h : p.Matches w) : w ≠ [] := by
  cases p with
  | number | word | blanks => exact h.1
  | text =>
    obtain ⟨body, -, hw⟩ := h
    simp [hw]
  | symbol =>
    obtain ⟨t, hw⟩ := h
    cases hw <;> simp
  | newline => simp [show w = ['\n'] from h]

theorem Longest.ne_nil {w s : List Char} (h : Longest w s) : w ≠ [] := by
  obtain ⟨p, hp⟩ := h.lexeme
  exact hp.ne_nil

theorem Longest.unique {v w s : List Char} (hv : Longest v s) (hw : Longest w s) : v = w := by
  have hvw := hw.length_le v hv.front hv.lexeme
  have hwv := hv.length_le w hw.front hw.lexeme
  have hfront : v <+: w := List.prefix_of_prefix_length_le hv.front hw.front hvw
  exact hfront.eq_of_length (Nat.le_antisymm hvw hwv)

theorem not_longest_nil {w : List Char} : ¬Longest w [] := by
  intro h
  exact h.ne_nil (List.prefix_nil.mp h.front)

theorem cut_nil_iff {s rest : List Char} : Cut s [] rest ↔ s = rest := by
  constructor
  · intro h
    simpa using h.concat
  · intro h
    refine ⟨by simpa using h, ?_, by simp⟩
    intro before w after heq
    simp at heq

/-- A cut takes one longest match and goes on behind it. -/
theorem cut_cons_iff {s w rest : List Char} {pieces : List (List Char)} :
    Cut s (w :: pieces) rest ↔
      ∃ tail, s = w ++ tail ∧ Longest w s ∧ Fits w ∧ Cut tail pieces rest := by
  constructor
  · intro h
    have hs : s = w ++ (pieces.flatten ++ rest) := by simpa using h.concat
    refine ⟨pieces.flatten ++ rest, hs, ?_, h.fits w (by simp), rfl, ?_, ?_⟩
    · simpa [hs] using h.longest [] w pieces rfl
    · intro before v after heq
      exact h.longest (w :: before) v after (by rw [heq, List.cons_append])
    · intro v hv
      exact h.fits v (List.mem_cons_of_mem w hv)
  · intro h
    obtain ⟨tail, hs, hlong, hfits, htail⟩ := h
    refine ⟨by rw [hs, htail.concat]; simp, ?_, ?_⟩
    · intro before v after heq
      cases before with
      | nil =>
        obtain ⟨rfl, rfl⟩ := List.cons.inj heq
        rw [List.append_assoc, ← htail.concat, ← hs]
        exact hlong
      | cons u before => exact htail.longest before v after (List.cons.inj heq).2
    · intro v hv
      obtain rfl | hv := List.mem_cons.mp hv
      · exact hfits
      · exact htail.fits v hv

/-- No piece that fits starts the text, so a cut that leaves it goes no further. -/
def Stops (s : List Char) : Prop :=
  ∀ w, Longest w s → ¬Fits w

/-- Of the cuts that go on as far as they can there is only one. -/
theorem Cut.unique {s rest rest' : List Char} {pieces pieces' : List (List Char)}
    (h : Cut s pieces rest) (h' : Cut s pieces' rest') (stop : Stops rest)
    (stop' : Stops rest') : pieces = pieces' ∧ rest = rest' := by
  induction pieces generalizing s pieces' with
  | nil =>
    obtain rfl := cut_nil_iff.mp h
    cases pieces' with
    | nil => exact ⟨rfl, cut_nil_iff.mp h'⟩
    | cons w pieces' =>
      obtain ⟨tail, -, hlong, hfits, -⟩ := cut_cons_iff.mp h'
      exact absurd hfits (stop w hlong)
  | cons w pieces ih =>
    obtain ⟨tail, hs, hlong, hfits, htail⟩ := cut_cons_iff.mp h
    cases pieces' with
    | nil =>
      obtain rfl := cut_nil_iff.mp h'
      exact absurd hfits (stop' w hlong)
    | cons w' pieces' =>
      obtain ⟨tail', hs', hlong', -, htail'⟩ := cut_cons_iff.mp h'
      obtain rfl := hlong.unique hlong'
      obtain rfl : tail = tail' := List.append_cancel_left (hs.symm.trans hs')
      obtain ⟨rfl, hrest⟩ := ih htail htail'
      exact ⟨rfl, hrest⟩

end Scriptlet.Lexical
