import Scriptlet.Proofs.Grammar.Programs
import Scriptlet.Proofs.Lexical.Spelling
import Scriptlet.Proofs.Run.Rules
import Scriptlet.Proofs.Script.Stages
import Scriptlet.Proofs.Text.Digits

/-!
Literals from source to output. A script that prints one literal shows what was written: digits
without the zeros in front of them, a negative number as the negation of its digits, and a text with
every character that it holds (`literals_print_as_written`).
-/
namespace Scriptlet

/-- Every word but the least is the negation of another. -/
theorem Word.exists_neg_eq {n : Int64} (h : n ≠ Int64.minValue) :
    ∃ k : Int64, k.toInt = -n.toInt ∧ neg k = .ok n := by
  have hleast : Int64.minValue.toInt = -9223372036854775808 := by decide
  have hgreatest : Int64.maxValue.toInt = 9223372036854775807 := by decide
  have hne : n.toInt ≠ Int64.minValue.toInt := fun heq => h (Int64.toInt_inj.mp heq)
  have hlower := n.minValue_le_toInt
  have hupper := n.toInt_le
  cases hk : ofInt? (-n.toInt) with
  | none =>
    have hrange := ofInt?_eq_none_iff.mp hk
    omega
  | some k =>
    have hneg : k.toInt = -n.toInt := ofInt?_eq_some_iff.mp hk
    exact ⟨k, hneg, checked_eq_ok_iff.mpr (by omega)⟩

namespace Script

open Token (scan)
open Lexical (Complete Pattern Reads)

variable {source : String} {ts : List Located} {e : Expr} {v : Value} {t : Token}

/-- The keyword and the space after it are read off, whatever follows. -/
theorem scan_print (rest : String) :
    scan ("print " ++ rest) = (scan rest).map (⟨.print, 1⟩ :: ·) := by
  obtain ⟨l, hl, hchars, hreading⟩ := Reads.print.exists_lexeme
  have hscan := Lexical.scanFrom_token hl (Lexical.complete_space hreading rest.toList) hreading 1
  rw [hchars, Lexical.scanFrom_blank rfl] at hscan
  rw [scan, String.toList_append]
  exact hscan

theorem scan_minus (rest : String) :
    scan ("-" ++ rest) = (scan rest).map (⟨.op .sub, 1⟩ :: ·) := by
  have hcomplete : Complete (.symbol ['-'] (.op .sub)) rest.toList := by
    intro c _
    simp [Lexical.Continues]
  have hscan := Lexical.scanFrom_token (l := .symbol ['-'] (.op .sub)) .sub hcomplete rfl 1
  rw [scan, String.toList_append]
  exact hscan

theorem scan_of_reads (h : Reads source.toList t) : scan source = .ok [⟨t, 1⟩] :=
  Lexical.scanFrom_of_reads h 1

/-- A script that prints one operand shows its value. -/
theorem text_of_print (hscan : scan source = .ok (⟨.print, 1⟩ :: ts))
    (he : Grammar.Derives .signed ts e) (hv : e.eval .empty = .ok v) :
    (execute source).text = v.display := by
  have hderives : Grammar.DerivesProgram (⟨.print, 1⟩ :: ts) [.print e 1] := by
    simpa using Grammar.DerivesProgram.cons (.print 1 (.side (.term (.factor he)))) .nil
  have hrun : Program.run [.print e 1] .initial =
      ⟨State.initial.print v, [.print e 1], none⟩ := by
    rw [Program.run_singleton]
    exact Stmt.run_print hv
  rw [execute_of_success hscan (Grammar.program_eq_ok hderives) (by rw [hrun]), hrun]
  simp [Execution.text, State.initial]

/-- A number is shown as the word that holds it. -/
theorem text_of_number {n : Int64} (h : Reads source.toList (.number n)) :
    (execute ("print " ++ source)).text = n.toInt.repr := by
  have hscan : scan ("print " ++ source) = .ok [⟨.print, 1⟩, ⟨.number n, 1⟩] := by
    rw [scan_print, scan_of_reads h]
    rfl
  exact text_of_print hscan (.operand (.number n 1)) rfl

/-- A number behind a sign is shown as the word that holds its negation. -/
theorem text_of_negated {k n : Int64} (h : Reads source.toList (.number k))
    (hn : Word.neg k = .ok n) : (execute ("print " ++ ("-" ++ source))).text = n.toInt.repr := by
  have hscan : scan ("print " ++ ("-" ++ source)) =
      .ok [⟨.print, 1⟩, ⟨.op .sub, 1⟩, ⟨.number k, 1⟩] := by
    rw [scan_print, scan_minus, scan_of_reads h]
    rfl
  have heval : (Expr.negate (.literal (.int k) 1) 1).eval .empty = .ok (.int n) := by
    rw [Expr.eval, Expr.eval]
    exact Expr.located_eq_ok_iff.mpr (Outcome.map_eq_ok_iff.mpr ⟨n, hn, rfl⟩)
  exact text_of_print hscan (.minus 1 (.operand (.number k 1))) heval

/-- Every word but the least is shown as it was written. -/
theorem text_of_int {n : Int64} (h : n ≠ Int64.minValue) :
    (execute ("print " ++ n.toInt.repr)).text = n.toInt.repr := by
  cases hn : n.toInt with
  | ofNat m =>
    have hnonneg : 0 ≤ n.toInt := hn ▸ Int.natCast_nonneg m
    rw [← hn]
    exact text_of_number (Lexical.reads_number hnonneg)
  | negSucc m =>
    obtain ⟨k, hk, hneg⟩ := Word.exists_neg_eq h
    have hpos : k.toInt = (m + 1 : Nat) := by omega
    have hreads := Lexical.reads_number (n := k) (by omega)
    rw [hpos] at hreads
    have htext := text_of_negated hreads hneg
    rw [hn] at htext
    exact htext

theorem scan_of_tooLarge (h : Pattern.number.Matches source.toList)
    (hlarge : Lexeme.number? source.toList = none) :
    scan source = .error (.literalTooLarge 1) := by
  have hcut : Lexeme.munch? source.toList = some (.digits source.toList, []) :=
    Lexical.munch?_chars (l := .digits source.toList) h
  have hreading : (Lexeme.digits source.toList).reading = .tooLarge := by
    simp [Lexeme.reading, hlarge]
  have hscan := Lexical.scanFrom_of_munch? hcut 1
  rw [hreading] at hscan
  exact hscan

/-- Digits are shown without the zeros in front, or refused where no word holds their number. -/
theorem text_of_digits {d : String} (hne : d ≠ "") (hd : ∀ c ∈ d.toList, c.isDigit = true) :
    (execute ("print " ++ d)).text =
      if (Nat.ofDigitChars 10 d.toList 0 : Int) ≤ Int64.maxValue.toInt then
        String.ofList (Text.significant d.toList)
      else "Error: Syntax error on line 1: Literal is too large." := by
  have hmatch : Pattern.number.Matches d.toList :=
    ⟨by simpa using hne, fun c hc => Lexical.isDigit_iff.mp (hd c hc)⟩
  cases hnumber : Lexeme.number? d.toList with
  | some n =>
    have hvalue : n.toInt = Nat.ofDigitChars 10 d.toList 0 := Word.ofInt?_eq_some_iff.mp hnumber
    have hle : (Nat.ofDigitChars 10 d.toList 0 : Int) ≤ Int64.maxValue.toInt := hvalue ▸ n.toInt_le
    rw [if_pos hle, text_of_number (.number hmatch hvalue), hvalue, ← Text.toDigits_ofDigitChars hd]
    exact String.toList_inj.mp (by rw [String.toList_ofList]; exact Nat.toList_repr)
  | none =>
    have hlarge := Lexical.number?_eq_none_iff.mp hnumber
    have hscan : scan ("print " ++ d) = .error (.literalTooLarge 1) := by
      rw [scan_print, scan_of_tooLarge hmatch hnumber]
      rfl
    rw [if_neg (Int.not_le.mpr hlarge), execute_of_lexError hscan]
    rfl

/-- A text is shown as it stands between its quotes. -/
theorem text_of_quoted {t : String} (ht : '"' ∉ t.toList) :
    (execute ("print \"" ++ t ++ "\"")).text = t := by
  have hsource : "print \"" ++ t ++ "\"" = "print " ++ Token.spelling (.text t) := by
    simp [Token.spelling, ← String.append_assoc]
  have htext : Reads (Token.spelling (.text t)).toList (.text t) := Lexical.reads_spelling ht
  have hscan : scan ("print \"" ++ t ++ "\"") = .ok [⟨.print, 1⟩, ⟨.text t, 1⟩] := by
    rw [hsource, scan_print, scan_of_reads htext]
    rfl
  exact text_of_print hscan (.operand (.text t 1)) rfl

/-- Literals print as they are written: every word but the least in decimal, digits without
superfluous zeros in front as long as a word holds their number, and a text with all that it
holds. -/
theorem literals_print_as_written :
    (∀ n : Int64, n ≠ Int64.minValue →
      (execute ("print " ++ n.toInt.repr)).text = n.toInt.repr) ∧
    (∀ d : String, d ≠ "" → (∀ c ∈ d.toList, c.isDigit = true) →
      (execute ("print " ++ d)).text =
        if (Nat.ofDigitChars 10 d.toList 0 : Int) ≤ Int64.maxValue.toInt then
          String.ofList (Text.significant d.toList)
        else "Error: Syntax error on line 1: Literal is too large.") ∧
    ∀ t : String, '"' ∉ t.toList → (execute ("print \"" ++ t ++ "\"")).text = t :=
  ⟨fun _ h => text_of_int h, fun _ hne hd => text_of_digits hne hd, fun _ ht => text_of_quoted ht⟩

/-- The least number that prints, zeros alone, and a text with a line break, a keyword and a
character that starts no token. -/
theorem literals_print_as_written_of_zeros :
    (execute ("print " ++ "-9223372036854775807")).text = "-9223372036854775807" ∧
    (execute ("print " ++ "000")).text = "0" ∧
    (execute ("print \"" ++ "a\\\nif é" ++ "\"")).text = "a\\\nif é" := by
  obtain ⟨hint, hdigits, htext⟩ := literals_print_as_written
  have hrepr : (Int64.minValue + 1).toInt.repr = "-9223372036854775807" := by decide +kernel
  refine ⟨hrepr ▸ hint (Int64.minValue + 1) (by decide), ?_, htext _ (by decide)⟩
  exact hdigits "000" (by decide) (List.all_eq_true.mp rfl)

/-- The sign is no part of a number, and the least word without it is too large. -/
example : scan "print -9223372036854775808" = .error (.literalTooLarge 1) := by
  cbv

end Script

end Scriptlet
