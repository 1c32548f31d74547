import Scriptlet.Proofs.Lexical.Segmentation

/-!
The character that a scan stops at. A lexeme other than a text in quotes has a shorter one in its
first character alone, so a character that nothing starts at is either one that no lexeme begins
with (`unexpected_cases`) or the opening quote of a text that is never closed
(`unexpected_quote_iff`).
-/
namespace Scriptlet.Lexical

open Token (scan scanFrom)

variable {source : String} {c : Char} {line : Nat} {w rest : List Char}

/-- The first character of a lexeme is one by itself, but for an opening quote. -/
theorem isLexeme_singleton (h : IsLexeme (c :: w)) (hc : c ≠ '"') : IsLexeme [c] := by
  obtain ⟨p, hp⟩ := h
  cases p with
  | number => exact ⟨.number, by simp, by simpa using hp.2 c List.mem_cons_self⟩
  | word => exact ⟨.word, by simp, by simpa using hp.2 c List.mem_cons_self⟩
  | blanks => exact ⟨.blanks, by simp, by simpa using hp.2 c List.mem_cons_self⟩
  | newline =>
    obtain ⟨rfl, -⟩ := List.cons.inj hp
    exact ⟨.newline, rfl⟩
  | text =>
    obtain ⟨body, -, hw⟩ := hp
    exact absurd (List.cons.inj hw).1 hc
  | symbol =>
    -- Each symbol of two characters starts with one of the symbols of one character.
    obtain ⟨t, ht⟩ := hp
    cases ht <;> exact ⟨.symbol, _, by constructor⟩

/-- At a quote there is a lexeme just when another quote follows. -/
theorem exists_isLexeme_quote_iff : (∃ v, v <+: '"' :: rest ∧ IsLexeme v) ↔ '"' ∈ rest := by
  constructor
  · rintro ⟨v, hv, p, hp⟩
    obtain ⟨d, v, rfl⟩ := List.exists_cons_of_ne_nil hp.ne_nil
    obtain ⟨rfl, hrest⟩ := List.cons_prefix_cons.mp hv
    have hstart := hp.startedBy_eq
    subst hstart
    obtain ⟨body, -, hbody⟩ := hp
    obtain ⟨-, rfl⟩ := List.cons.inj hbody
    exact hrest.subset (List.mem_append_right body List.mem_cons_self)
  · intro h
    obtain ⟨body, back, rfl, hbody⟩ := List.eq_append_cons_of_mem h
    refine ⟨'"' :: body ++ ['"'], ⟨back, by simp⟩, .text, body, hbody, rfl⟩

/-- Where a scan meets an unexpected character, nothing matches. -/
theorem cut_of_unexpected (h : scan source = .error (.unexpectedCharacter c line)) :
    ∃ pieces rest, Cut source.toList pieces (c :: rest) ∧ ∀ v, v <+: c :: rest → ¬IsLexeme v := by
  have hverdict : Verdict.of (scan source) = .unexpected c := by rw [h]; rfl
  obtain ⟨pieces, rest, hcut, tail, rfl, hnone⟩ := (of_scan_eq_iff source _).mp hverdict
  exact ⟨pieces, tail, hcut, hnone⟩

/-- An unexpected character is a quote, or no lexeme at all begins with it. -/
theorem unexpected_cases (h : scan source = .error (.unexpectedCharacter c line)) :
    c = '"' ∨ ∀ w, ¬IsLexeme (c :: w) := by
  obtain ⟨pieces, rest, -, hnone⟩ := cut_of_unexpected h
  by_cases hc : c = '"'
  · exact .inl hc
  · refine .inr fun w hw => ?_
    have hfront : [c] <+: c :: rest := List.prefix_append [c] rest
    exact hnone [c] hfront (isLexeme_singleton hw hc)

/-- The blanks and the line break are lexemes of their own. -/
theorem isLexeme_space (hc : c ∈ [' ', '\t', '\r', '\n']) : IsLexeme [c] := by
  by_cases hline : c = '\n'
  · exact ⟨.newline, by rw [hline]; rfl⟩
  · exact ⟨.blanks, by simp, by simpa [hline] using hc⟩

/-- A scan does not stop at a space of the language. -/
theorem scan_ne_unexpected_space (hc : c ∈ [' ', '\t', '\r', '\n']) (line : Nat) :
    scan source ≠ .error (.unexpectedCharacter c line) := by
  intro h
  obtain rfl | hnone := unexpected_cases h
  · exact absurd hc (by decide)
  · exact hnone [] (isLexeme_space hc)

/-- A quote is unexpected where the text that it opens is never closed. -/
theorem unexpected_quote_iff :
    (∃ line, scan source = .error (.unexpectedCharacter '"' line)) ↔
      ∃ pieces rest, Cut source.toList pieces ('"' :: rest) ∧ '"' ∉ rest := by
  constructor
  · rintro ⟨line, h⟩
    obtain ⟨pieces, rest, hcut, hnone⟩ := cut_of_unexpected h
    refine ⟨pieces, rest, hcut, fun hmem => ?_⟩
    obtain ⟨v, hv, hlexeme⟩ := exists_isLexeme_quote_iff.mpr hmem
    exact hnone v hv hlexeme
  · rintro ⟨pieces, rest, hcut, hrest⟩
    rw [← Verdict.of_eq_unexpected_iff, of_scan_eq_iff]
    refine ⟨pieces, '"' :: rest, hcut, rest, rfl, fun v hv hlexeme => ?_⟩
    exact hrest (exists_isLexeme_quote_iff.mp ⟨v, hv, hlexeme⟩)

end Scriptlet.Lexical
