import Scriptlet.Proofs.Lexical.Spelling
import Scriptlet.Proofs.Lexical.Unexpected
import Scriptlet.Proofs.Text.Digits

/-!
Scripts that cannot be scanned, and more text after them. The lexemes before the place of an error
are ended by what stands there, so with more text a scan comes to that place again
(`exists_blocked`). A number that is too large stays so and a character that starts nothing still
starts nothing; only a text that was never closed can be closed
(`scan_error_final_unless_unclosed`).
-/
namespace Scriptlet

def LexError.line : LexError → Nat
  | unexpectedCharacter _ line | literalTooLarge line => line

namespace Lexical

open Lexeme (munch? chars_append_of_munch?)
open Token (scan scanFrom)

variable {e : LexError} {l : Lexeme} {c : Char} {line : Nat} {s rest : List Char}

/-- The text starts with what the error is about, so that a scan ends there at once. -/
def Blocked : LexError → List Char → Prop
  | .unexpectedCharacter c _, s => s.head? = some c ∧ munch? s = none
  | .literalTooLarge _, s => ∃ l rest, munch? s = some (l, rest) ∧ l.reading = .tooLarge

theorem ne_nil_of_scanFrom (h : scanFrom line s = .error e) : s ≠ [] := by
  rintro rfl
  cases (Token.scanFrom_nil line).symm.trans h

/-- A scan that fails comes to a place where it is blocked, and with more text after it it comes
there again. -/
theorem exists_blocked (h : scanFrom line s = .error e) :
    ∃ front rest, Blocked e rest ∧
      ∀ more, scanFrom line (s ++ more) = (scanFrom e.line (rest ++ more)).map (front ++ ·) := by
  fun_induction scanFrom line s with
  | case1 line s l after hmunch next t ht ih =>
    -- There is no error in an empty text, so something follows the lexeme and ends it.
    have hafter := Outcome.map_eq_error_iff.mp h
    obtain ⟨front, rest, hblocked, hmore⟩ := ih hafter
    refine ⟨⟨t, line⟩ :: front, rest, hblocked, fun more => ?_⟩
    rw [scanFrom_of_munch? (munch?_append_of_ne_nil hmunch (ne_nil_of_scanFrom hafter) more), ht]
    dsimp only
    rw [hmore more]
    cases scanFrom e.line (rest ++ more) <;> rfl
  | case2 line s l after hmunch next hskip ih =>
    obtain ⟨front, rest, hblocked, hmore⟩ := ih h
    refine ⟨front, rest, hblocked, fun more => ?_⟩
    rw [scanFrom_of_munch? (munch?_append_of_ne_nil hmunch (ne_nil_of_scanFrom h) more), hskip]
    exact hmore more
  | case3 line s l after hmunch hlarge =>
    cases h
    exact ⟨[], s, ⟨l, after, hmunch, hlarge⟩, fun more => (congrFun Except.map_id _).symm⟩
  | case4 line hmunch => cases h
  | case5 line c cs hmunch =>
    cases h
    exact ⟨[], c :: cs, ⟨rfl, hmunch⟩, fun more => (congrFun Except.map_id _).symm⟩

/-- More text can only add digits to a number that is too large. -/
theorem Blocked.tooLarge_append (h : Blocked (.literalTooLarge line) s) (more : List Char) :
    Blocked (.literalTooLarge line) (s ++ more) := by
  obtain ⟨l, rest, hmunch, hlarge⟩ := h
  obtain ⟨hnumber, hvalue⟩ := number_of_reading (formed_of_munch? hmunch) hlarge
  -- If anything was left after the digits, this run is empty.
  let run := (rest ++ more).takeWhile Char.isDigit
  have hrun : ∀ d ∈ run, d.isDigit = true := List.all_eq_true.mp List.all_takeWhile
  have hformed : Formed (.digits (l.chars ++ run)) := by
    refine ⟨List.append_ne_nil_of_left_ne_nil hnumber.ne_nil run, ?_⟩
    exact List.forall_mem_append.mpr ⟨hnumber.2, fun d hd => isDigit_iff.mp (hrun d hd)⟩
  have hcomplete : Complete (.digits (l.chars ++ run)) ((rest ++ more).dropWhile Char.isDigit) := by
    intro d hd
    have hhead := List.head?_dropWhile_not Char.isDigit (rest ++ more)
    rw [Option.mem_def.mp hd] at hhead
    simpa [Continues] using hhead
  have htext : s ++ more = l.chars ++ run ++ (rest ++ more).dropWhile Char.isDigit := by
    rw [← chars_append_of_munch? hmunch, List.append_assoc, List.append_assoc,
      List.takeWhile_append_dropWhile]
  refine ⟨_, _, htext ▸ munch?_append hformed hcomplete, ?_⟩
  have hle := Text.ofDigitChars_le_append l.chars run
  have hnone : Lexeme.number? (l.chars ++ run) = none := number?_eq_none_iff.mpr (by omega)
  simp [Lexeme.reading, hnone]

/-- A character that starts no lexeme starts none in front of more text. -/
theorem Blocked.unexpected_append (h : Blocked (.unexpectedCharacter c line) s) (hc : c ≠ '"')
    (more : List Char) : Blocked (.unexpectedCharacter c line) (s ++ more) := by
  obtain ⟨hhead, hnone⟩ := h
  obtain ⟨cs, rfl⟩ := List.head?_eq_some_iff.mp hhead
  refine ⟨rfl, ?_⟩
  cases hmunch : munch? (c :: cs ++ more) with
  | none => rfl
  | some cut =>
    obtain ⟨l, rest⟩ := cut
    have hlong := longest_of_munch? hmunch
    obtain ⟨d, w, hw⟩ := List.exists_cons_of_ne_nil hlong.ne_nil
    obtain ⟨rfl, -⟩ : d = c ∧ w <+: cs ++ more := List.cons_prefix_cons.mp (hw ▸ hlong.front)
    have hfirst : IsLexeme [d] := isLexeme_singleton (hw ▸ hlong.lexeme) hc
    exact absurd hfirst (not_isLexeme_of_munch? hnone (List.prefix_append [d] cs))

theorem Blocked.append (h : Blocked e s) (he : ∀ line, e ≠ .unexpectedCharacter '"' line)
    (more : List Char) : Blocked e (s ++ more) := by
  cases e with
  | unexpectedCharacter c line =>
    refine h.unexpected_append ?_ more
    rintro rfl
    exact he line rfl
  | literalTooLarge line => exact h.tooLarge_append more

theorem Blocked.scanFrom_eq (h : Blocked e s) : scanFrom e.line s = .error e := by
  cases e with
  | unexpectedCharacter c line =>
    obtain ⟨hhead, hnone⟩ := h
    obtain ⟨cs, rfl⟩ := List.head?_eq_some_iff.mp hhead
    exact scanFrom_of_munch?_none hnone line
  | literalTooLarge line =>
    obtain ⟨l, rest, hmunch, hlarge⟩ := h
    rw [scanFrom_of_munch? hmunch, hlarge]
    rfl

/-- A text that was never closed is closed by a quote. -/
theorem Blocked.closed (h : Blocked (.unexpectedCharacter '"' line) s) :
    ∃ body, scanFrom line (s ++ ['"']) = .ok [⟨.text body, line⟩] := by
  obtain ⟨hhead, hnone⟩ := h
  obtain ⟨cs, rfl⟩ := List.head?_eq_some_iff.mp hhead
  have hbody : '"' ∉ cs := by
    intro hmem
    obtain ⟨v, hv, hlexeme⟩ := exists_isLexeme_quote_iff.mpr hmem
    exact not_isLexeme_of_munch? hnone hv hlexeme
  exact ⟨String.ofList cs, scanFrom_of_reads (.text hbody) line⟩

/-- Whatever is written after a script that cannot be scanned, the scan fails with the same error on
the same line, unless the error is a text that was never closed. A quote at the end of the script
closes that text, which is then the last token and stands where the error was. -/
theorem scan_error_final_unless_unclosed {source : String} (h : scan source = .error e) :
    ((∀ line, e ≠ .unexpectedCharacter '"' line) →
      ∀ more, scan (source ++ more) = .error e) ∧
    ∀ line, e = .unexpectedCharacter '"' line →
      ∃ ts body, scan (source ++ "\"") = .ok (ts ++ [⟨.text body, line⟩]) := by
  obtain ⟨front, rest, hblocked, hmore⟩ := exists_blocked h
  constructor
  · intro he more
    rw [scan, String.toList_append, hmore, (hblocked.append he more.toList).scanFrom_eq]
    rfl
  · rintro line rfl
    obtain ⟨body, hbody⟩ := hblocked.closed
    refine ⟨front, body, ?_⟩
    rw [scan, String.toList_append, hmore]
    exact congrArg (Except.map (front ++ ·)) hbody

/-- One more digit leaves a number too large, and one more quote closes a text that ends on another
line. -/
theorem scan_error_final_unless_unclosed_of_digit :
    scan "x=9223372036854775808" = .error (.literalTooLarge 1) ∧
    scan ("x=9223372036854775808" ++ "0 $") = .error (.literalTooLarge 1) ∧
    scan "\nprint \"a\n" = .error (.unexpectedCharacter '"' 2) ∧
    ∃ ts body, scan ("\nprint \"a\n" ++ "\"") = .ok (ts ++ [⟨.text body, 2⟩]) := by
  have hlarge : scan "x=9223372036854775808" = .error (.literalTooLarge 1) := by
    with_unfolding_all rfl
  have hopen : scan "\nprint \"a\n" = .error (.unexpectedCharacter '"' 2) := by
    with_unfolding_all rfl
  exact ⟨hlarge, (scan_error_final_unless_unclosed hlarge).1 (by simp) _, hopen,
    (scan_error_final_unless_unclosed hopen).2 2 rfl⟩

end Lexical

end Scriptlet
