import Scriptlet.Proofs.Guarded.Basic
import Scriptlet.Proofs.Lexical.Munch
import Scriptlet.Token.Scan

/-!
Scanning with a running line counter. The counter passes a lexeme before its token is placed, so the
line that a text opens on is found by going back over the breaks inside it. `scanFrom_eq` says that
the way back always exists and that the quotes of a text can always be taken off.
-/
namespace Scriptlet.Guarded

open Lexical (Formed formed_of_munch?)

/-- The line breaks that a lexeme moves the counter by. -/
def breaks : Lexeme → Nat
  | .quoted body => (Lexeme.quoted body).chars.count '\n'
  | .newline => 1
  | .digits _ | .word _ | .blanks _ | .symbol .. => 0

theorem breaks_eq_count {l : Lexeme} (h : Formed l) : breaks l = l.chars.count '\n' := by
  cases l with
  | quoted body => rfl
  | newline => rfl
  | digits w | word w | blanks w =>
    have hnone : '\n' ∉ w := fun hmem => absurd (h.2 '\n' hmem) (by decide)
    exact (List.count_eq_zero.mpr hnone).symm
  | symbol w t => cases h <;> rfl

/-- What a lexeme contributes, read when the counter has passed it. -/
def read (counter : Nat) : Lexeme → Guarded LexError (Option Located)
  | .quoted body => do
    let w := (Lexeme.quoted body).chars
    let inside ← unquote w
    let opened ← subtract counter (w.count '\n')
    return some ⟨.text (String.ofList inside), opened⟩
  | lexeme =>
    match lexeme.reading with
    | .token t => return some ⟨t, counter⟩
    | .skip => return none
    | .tooLarge => throw (.literalTooLarge counter)

/-- The tokens of a text, with the lines counted so far. -/
def scanFrom (counter : Nat) (cs : List Char) : Guarded LexError (List Located) :=
  match _cut : Lexeme.munch? cs with
  | some (lexeme, rest) => do
    let placed ← read (counter + breaks lexeme) lexeme
    let ts ← scanFrom (counter + breaks lexeme) rest
    return placed.toList ++ ts
  | none =>
    match cs with
    | [] => return []
    | c :: _ => throw (.unexpectedCharacter c counter)
termination_by cs.length
decreasing_by exact Lexeme.length_lt_of_munch? _cut

def scan (source : String) : Guarded LexError (List Located) :=
  scanFrom 1 source.toList

theorem scanFrom_of_munch? {cs rest : List Char} {l : Lexeme}
    (h : Lexeme.munch? cs = some (l, rest)) (counter : Nat) :
    scanFrom counter cs = do
      let placed ← read (counter + breaks l) l
      let ts ← scanFrom (counter + breaks l) rest
      return placed.toList ++ ts := by
  rw [scanFrom]
  split
  · rename_i hcut
    cases hcut.symm.trans h
    rfl
  · rename_i hcut
    cases hcut.symm.trans h

/-- A lexeme that was cut from a text is placed on the line it starts on. -/
theorem read_eq {l : Lexeme} (h : Formed l) (line : Nat) :
    read (line + breaks l) l = calm (match l.reading with
      | .token t => .ok (some ⟨t, line⟩)
      | .skip => .ok none
      | .tooLarge => .error (.literalTooLarge line)) := by
  cases l with
  | quoted body =>
    rw [read, show (Lexeme.quoted body).chars = '"' :: body ++ ['"'] from rfl, unquote_eq]
    dsimp only [breaks, Lexeme.chars]
    rw [subtract_add]
    rfl
  | newline => rfl
  | digits w => cases hn : Lexeme.number? w <;> simp [read, breaks, Lexeme.reading, hn] <;> rfl
  | word w | blanks w | symbol w t => rfl

theorem scanFrom_eq (line : Nat) (cs : List Char) :
    scanFrom line cs = calm (Token.scanFrom line cs) := by
  fun_induction Token.scanFrom line cs with
  | case1 line cs l rest hmunch next t ht ih =>
    have hformed := formed_of_munch? hmunch
    have hnext : line + breaks l = next := by rw [breaks_eq_count hformed]
    rw [scanFrom_of_munch? hmunch, read_eq hformed, ht, hnext, ih]
    cases Token.scanFrom next rest <;> rfl
  | case2 line cs l rest hmunch next hskip ih =>
    have hformed := formed_of_munch? hmunch
    have hnext : line + breaks l = next := by rw [breaks_eq_count hformed]
    rw [scanFrom_of_munch? hmunch, read_eq hformed, hskip, hnext, ih]
    cases Token.scanFrom next rest <;> rfl
  | case3 line cs l rest hmunch hlarge =>
    rw [scanFrom_of_munch? hmunch, read_eq (formed_of_munch? hmunch), hlarge]
    rfl
  | case4 line hmunch =>
    rw [scanFrom]
    rfl
  | case5 line c cs hmunch =>
    rw [scanFrom]
    split
    · rename_i hcut
      cases hcut.symm.trans hmunch
    · rfl

end Scriptlet.Guarded
