import Scriptlet.Proofs.Lexical.Unexpected
import Scriptlet.Proofs.Script.Stages
import Scriptlet.Proofs.Text.Wording

/-!
How a script that fails is shown. Of the script itself a message holds at most the one character
that the scan stopped at, and a scan goes on at line breaks, so the text of every failure is a
single line (`failure_on_one_line`).
-/
namespace Scriptlet.Script

open Token (scan)
open Lexical (Cut IsLexeme)
open Text (isPlain)

variable {source : String} {e : ScriptError} {c : Char}

/-- What stands in the text of a failure is plain, or the script stopped being read at it. -/
theorem mem_text_of_failure (h : output source = .error e)
    (hc : c ∈ (execute source).text.toList) :
    isPlain c = true ∨ ∃ line, scan source = .error (.unexpectedCharacter c line) := by
  rw [text_of_failure h, String.toList_append, List.mem_append] at hc
  obtain hc | hc := hc
  · exact .inl ((show Text.Plain "Error: " by decide) c hc)
  · obtain hplain | ⟨line, rfl⟩ := ScriptError.mem_message hc
    · exact .inl hplain
    · exact .inr ⟨line, scan_of_output h⟩

theorem not_mem_text_of_failure (h : output source = .error e) (hplain : isPlain c = false)
    (hc : c ∈ [' ', '\t', '\r', '\n']) : c ∉ (execute source).text.toList := by
  intro hmem
  obtain hc' | ⟨line, hscan⟩ := mem_text_of_failure h hmem
  · rw [hplain] at hc'
    cases hc'
  · exact Lexical.scan_ne_unexpected_space hc line hscan

/-- A script that fails is shown as one line: a fixed word and the message of the error, without a
line feed or a carriage return, whatever the script holds. A character that the message quotes is
the one that the cut of the script ends at. It is a double quote, or neither a token nor a space of
the language begins with it. -/
theorem failure_on_one_line (h : output source = .error e) :
    (execute source).text = "Error: " ++ e.message ∧
    '\n' ∉ (execute source).text.toList ∧ '\r' ∉ (execute source).text.toList ∧
    ∀ found line, e = .lex (.unexpectedCharacter found line) →
      e.message = s!"Syntax error on line {line}: Unexpected character '{found}'." ∧
      (∃ pieces rest, Cut source.toList pieces (found :: rest)) ∧
      (found = '"' ∨ (∀ w, ¬IsLexeme (found :: w)) ∧ found ∉ [' ', '\t', '\r', '\n']) := by
  refine ⟨text_of_failure h, not_mem_text_of_failure h rfl (by decide),
    not_mem_text_of_failure h rfl (by decide), ?_⟩
  rintro found line rfl
  have hscan := scan_of_output h
  obtain ⟨pieces, rest, hcut, -⟩ := Lexical.cut_of_unexpected hscan
  refine ⟨rfl, ⟨pieces, rest, hcut⟩, ?_⟩
  obtain hquote | hnone := Lexical.unexpected_cases hscan
  · exact .inl hquote
  · exact .inr ⟨hnone, fun hspace => Lexical.scan_ne_unexpected_space hspace line hscan⟩

/-- A text that is never closed runs over two lines, and is reported on one. -/
theorem failure_on_one_line_of_unclosed :
    output "print \"a\nb" = .error (.lex (.unexpectedCharacter '"' 1)) ∧
    (execute "print \"a\nb").text = "Error: Syntax error on line 1: Unexpected character '\"'." ∧
    '\n' ∉ (execute "print \"a\nb").text.toList := by
  have hscan : scan "print \"a\nb" = .error (.unexpectedCharacter '"' 1) := by
    with_unfolding_all rfl
  have hout : output "print \"a\nb" = .error (.lex (.unexpectedCharacter '"' 1)) := by
    rw [output, execute_of_lexError hscan]
    rfl
  obtain ⟨htext, hline, -⟩ := failure_on_one_line hout
  exact ⟨hout, htext, hline⟩

end Scriptlet.Script
