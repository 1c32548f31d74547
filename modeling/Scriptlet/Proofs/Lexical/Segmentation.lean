import Scriptlet.Proofs.Lexical.Munch
import Scriptlet.Token.Scan

/-!
A scan is the cut of its text into longest matches. `explains_scanFrom` follows the scan lexeme by
lexeme to the place where it ends; since such a cut is unique, the outcome of a scan is known from
the cut alone, and `scan_iff_cut` says which cut goes with which outcome.
-/
namespace Scriptlet.Lexical

open Lexeme (munch? chars_append_of_munch?)
open Token (scan scanFrom)

/-- Only digits can fail to fit. -/
theorem Formed.fits {l : Lexeme} (h : Formed l) (hp : pattern l ≠ .number) : Fits l.chars := by
  intro hnumber
  exact absurd (h.matches.unique hnumber) hp

theorem reads_ofWord {w : List Char} (h : Pattern.word.Matches w) :
    Reads w (Lexeme.ofWord w) := by
  unfold Lexeme.ofWord
  split
  · rename_i hprint
    rw [hprint]
    exact .print
  · split
    · rename_i hcond
      rw [hcond]
      exact .cond
    · exact .name h ‹_› ‹_›

theorem number?_eq_none_iff {w : List Char} :
    Lexeme.number? w = none ↔ Int64.maxValue.toInt < (Nat.ofDigitChars 10 w 0 : Int) := by
  have hmin : Int64.minValue.toInt ≤ (Nat.ofDigitChars 10 w 0 : Int) :=
    Int.le_trans (by decide) (Int.natCast_nonneg _)
  rw [Lexeme.number?, Word.ofInt?_eq_none_iff]
  constructor
  · intro h
    exact h.resolve_left (Int.not_lt.mpr hmin)
  · exact Or.inr

/-- What a lexeme contributes is what its characters read as. -/
theorem reads_of_reading {l : Lexeme} {t : Token} (h : Formed l) (ht : l.reading = .token t) :
    Reads l.chars t ∧ Fits l.chars := by
  cases l with
  | digits w =>
    cases hn : Lexeme.number? w with
    | none => simp [Lexeme.reading, hn] at ht
    | some n =>
      obtain rfl : Token.number n = t := by simpa [Lexeme.reading, hn] using ht
      refine ⟨.number h (Word.ofInt?_eq_some_iff.mp hn), fun _ => ?_⟩
      rw [← Int.not_lt, ← number?_eq_none_iff, Lexeme.chars, hn]
      simp
  | word w =>
    obtain rfl : Lexeme.ofWord w = t := by simpa [Lexeme.reading] using ht
    exact ⟨reads_ofWord h, h.fits (by simp [pattern])⟩
  | quoted body =>
    obtain rfl : Token.text (String.ofList body) = t := by simpa [Lexeme.reading] using ht
    exact ⟨.text h, h.fits (by simp [pattern])⟩
  | symbol w s =>
    obtain rfl : s = t := by simpa [Lexeme.reading] using ht
    exact ⟨.symbol h, h.fits (by simp [pattern])⟩
  | blanks _ | newline => simp [Lexeme.reading] at ht

theorem isSpace_of_reading {l : Lexeme} (h : Formed l) (hskip : l.reading = .skip) :
    IsSpace l.chars ∧ Fits l.chars := by
  cases l with
  | digits w => cases hn : Lexeme.number? w <;> simp [Lexeme.reading, hn] at hskip
  | word _ | quoted _ | symbol _ _ => simp [Lexeme.reading] at hskip
  | blanks w => exact ⟨.inr h, h.fits (by simp [pattern])⟩
  | newline => exact ⟨.inl h, h.fits (by simp [pattern])⟩

theorem number_of_reading {l : Lexeme} (h : Formed l) (hlarge : l.reading = .tooLarge) :
    Pattern.number.Matches l.chars ∧
      Int64.maxValue.toInt < (Nat.ofDigitChars 10 l.chars 0 : Int) := by
  cases l with
  | digits w =>
    refine ⟨h, number?_eq_none_iff.mp ?_⟩
    cases hn : Lexeme.number? w <;> simp [Lexeme.reading, Lexeme.chars, hn] at hlarge ⊢
  | word _ | quoted _ | symbol _ _ | blanks _ | newline => simp [Lexeme.reading] at hlarge

theorem Symbol.token_unique {w : List Char} {t u : Token} (ht : Symbol w t) (hu : Symbol w u) :
    t = u := by
  cases ht <;> cases hu <;> rfl

/-- The characters of a lexeme determine it. -/
theorem Formed.ext {l m : Lexeme} (hl : Formed l) (hm : Formed m) (h : l.chars = m.chars) :
    l = m := by
  have same := hl.matches.unique (h ▸ hm.matches)
  cases l <;> cases m <;> simp only [pattern, reduceCtorEq] at same
  case symbol.symbol w t v u =>
    obtain rfl : w = v := h
    rw [hl.token_unique hm]
  all_goals simp_all [Lexeme.chars]

theorem word_matches_of_all {c : Char} {w : List Char}
    (h : (c :: w).all Lexeme.isWordChar = true) : Pattern.word.Matches (c :: w) := by
  refine ⟨List.cons_ne_nil c w, ?_⟩
  intro d hd
  exact isWordChar_iff.mp (List.all_eq_true.mp h d hd)

theorem Reads.exists_lexeme {w : List Char} {t : Token} (h : Reads w t) :
    ∃ l, Formed l ∧ l.chars = w ∧ l.reading = .token t := by
  cases h with
  | number hw hn =>
    have hnumber := Word.ofInt?_eq_some_iff.mpr hn
    exact ⟨.digits w, hw, rfl, by simp [Lexeme.reading, Lexeme.number?, hnumber]⟩
  | text hbody => exact ⟨.quoted _, hbody, rfl, rfl⟩
  | print => exact ⟨.word _, word_matches_of_all (by decide), rfl, rfl⟩
  | cond => exact ⟨.word _, word_matches_of_all (by decide), rfl, rfl⟩
  | name hw hprint hcond =>
    exact ⟨.word w, hw, rfl, by simp [Lexeme.reading, Lexeme.ofWord, hprint, hcond]⟩
  | symbol hw => exact ⟨.symbol w t, hw, rfl, rfl⟩

theorem IsSpace.exists_lexeme {w : List Char} (h : IsSpace w) :
    ∃ l, Formed l ∧ l.chars = w ∧ l.reading = .skip := by
  cases h with
  | inl h => exact ⟨.newline, rfl, h.symm, rfl⟩
  | inr h => exact ⟨.blanks w, h, rfl, rfl⟩

theorem Reads.unique {w : List Char} {t u : Token} (ht : Reads w t) (hu : Reads w u) : t = u := by
  obtain ⟨l, hl, hlw, hlt⟩ := ht.exists_lexeme
  obtain ⟨m, hm, hmw, hmu⟩ := hu.exists_lexeme
  obtain rfl := hl.ext hm (hlw.trans hmw.symm)
  exact Lexeme.Reading.token.inj (hlt.symm.trans hmu)

theorem Reads.not_isSpace {w : List Char} {t : Token} (h : Reads w t) : ¬IsSpace w := by
  intro hspace
  obtain ⟨l, hl, hlw, hlt⟩ := h.exists_lexeme
  obtain ⟨m, hm, hmw, hskip⟩ := hspace.exists_lexeme
  obtain rfl := hl.ext hm (hlw.trans hmw.symm)
  simp [hlt] at hskip

theorem Transcribes.unique {pieces : List (List Char)} {ts us : List Token}
    (ht : Transcribes pieces ts) (hu : Transcribes pieces us) : ts = us := by
  induction ht generalizing us with
  | nil =>
    cases hu
    rfl
  | skip hspace _ ih =>
    cases hu with
    | skip _ hu => exact ih hu
    | token hreads _ => exact absurd hspace hreads.not_isSpace
  | token hreads _ ih =>
    cases hu with
    | skip hspace _ => exact absurd hspace hreads.not_isSpace
    | token hreads' hu => rw [hreads.unique hreads', ih hu]

/-- How a scan ends, with the lines left out. -/
inductive Verdict where
  | tokens (ts : List Token)
  | unexpected (c : Char)
  | tooLarge

def Verdict.of : Except LexError (List Located) → Verdict
  | .ok ts => tokens (ts.map Located.token)
  | .error (.unexpectedCharacter c _) => unexpected c
  | .error (.literalTooLarge _) => tooLarge

namespace Verdict

variable {r : Except LexError (List Located)}

theorem of_eq_tokens_iff {ts : List Token} :
    of r = tokens ts ↔ ∃ located, r = .ok located ∧ located.map Located.token = ts := by
  match r with
  | .ok _ | .error (.unexpectedCharacter ..) | .error (.literalTooLarge _) => simp [of]

theorem of_eq_unexpected_iff {c : Char} :
    of r = unexpected c ↔ ∃ line, r = .error (.unexpectedCharacter c line) := by
  match r with
  | .ok _ | .error (.unexpectedCharacter ..) | .error (.literalTooLarge _) => simp [of]

theorem of_eq_tooLarge_iff : of r = tooLarge ↔ ∃ line, r = .error (.literalTooLarge line) := by
  match r with
  | .ok _ | .error (.unexpectedCharacter ..) | .error (.literalTooLarge _) => simp [of]

end Verdict

/-- What a verdict says about a cut and the text it leaves. -/
def Verdict.Holds (pieces : List (List Char)) (rest : List Char) : Verdict → Prop
  | tokens ts => rest = [] ∧ Transcribes pieces ts
  | unexpected c => ∃ tail, rest = c :: tail ∧ ∀ w, w <+: rest → ¬IsLexeme w
  | tooLarge => ∃ w, Longest w rest ∧ Pattern.number.Matches w ∧
      Int64.maxValue.toInt < (Nat.ofDigitChars 10 w 0 : Int)

theorem Verdict.Holds.stops {pieces : List (List Char)} {rest : List Char} {v : Verdict}
    (h : v.Holds pieces rest) : Stops rest := by
  intro w hlong hfits
  cases v with
  | tokens ts =>
    obtain ⟨rfl, -⟩ := h
    exact not_longest_nil hlong
  | unexpected c =>
    obtain ⟨tail, -, hnone⟩ := h
    exact hnone w hlong.front hlong.lexeme
  | tooLarge =>
    obtain ⟨v, hv, hnumber, hvalue⟩ := h
    obtain rfl := hlong.unique hv
    exact absurd (hfits hnumber) (Int.not_le.mpr hvalue)

theorem Verdict.Holds.unique {pieces : List (List Char)} {rest : List Char} {v u : Verdict}
    (hv : v.Holds pieces rest) (hu : u.Holds pieces rest) : v = u := by
  cases v with
  | tokens ts =>
    obtain ⟨rfl, hts⟩ := hv
    cases u with
    | tokens us => rw [hts.unique hu.2]
    | unexpected c => simp [Holds] at hu
    | tooLarge =>
      obtain ⟨w, hlong, -⟩ := hu
      exact absurd hlong not_longest_nil
  | unexpected c =>
    obtain ⟨tail, rfl, hnone⟩ := hv
    cases u with
    | tokens us => simp [Holds] at hu
    | unexpected d =>
      obtain ⟨tail', heq, -⟩ := hu
      rw [(List.cons.inj heq).1]
    | tooLarge =>
      obtain ⟨w, hlong, -⟩ := hu
      exact absurd hlong.lexeme (hnone w hlong.front)
  | tooLarge =>
    obtain ⟨w, hlong, -⟩ := hv
    cases u with
    | tokens us =>
      obtain ⟨rfl, -⟩ := hu
      exact absurd hlong not_longest_nil
    | unexpected c =>
      obtain ⟨tail, -, hnone⟩ := hu
      exact absurd hlong.lexeme (hnone w hlong.front)
    | tooLarge => rfl

def Explains (s : List Char) (v : Verdict) : Prop :=
  ∃ pieces rest, Cut s pieces rest ∧ v.Holds pieces rest

theorem Explains.unique {s : List Char} {v u : Verdict} (hv : Explains s v) (hu : Explains s u) :
    v = u := by
  obtain ⟨pieces, rest, hcut, hv⟩ := hv
  obtain ⟨pieces', rest', hcut', hu⟩ := hu
  obtain ⟨rfl, rfl⟩ := hcut.unique hcut' hv.stops hu.stops
  exact hv.unique hu

/-- One more piece in front leaves the end of the cut where it is. -/
theorem Explains.cons {s w tail : List Char} {r : Except LexError (List Located)}
    {f : List Located → List Located} (h : Explains tail (.of r)) (hs : w ++ tail = s)
    (hlong : Longest w s) (hfits : Fits w)
    (hf : ∀ pieces ts, Transcribes pieces (ts.map Located.token) →
      Transcribes (w :: pieces) ((f ts).map Located.token)) : Explains s (.of (r.map f)) := by
  obtain ⟨pieces, rest, hcut, hr⟩ := h
  refine ⟨w :: pieces, rest, cut_cons_iff.mpr ⟨tail, hs.symm, hlong, hfits, hcut⟩, ?_⟩
  match r with
  | .ok ts => exact ⟨hr.1, hf pieces ts hr.2⟩
  | .error (.unexpectedCharacter ..) | .error (.literalTooLarge _) => exact hr

theorem explains_scanFrom (line : Nat) (s : List Char) :
    Explains s (.of (scanFrom line s)) := by
  fun_induction scanFrom line s with
  | case1 line s l rest hmunch next t ht ih =>
    obtain ⟨hreads, hfits⟩ := reads_of_reading (formed_of_munch? hmunch) ht
    exact ih.cons (chars_append_of_munch? hmunch) (longest_of_munch? hmunch) hfits
      fun _ _ hts => .token hreads hts
  | case2 line s l rest hmunch next hskip ih =>
    obtain ⟨hspace, hfits⟩ := isSpace_of_reading (formed_of_munch? hmunch) hskip
    have hcons := ih.cons (f := id) (chars_append_of_munch? hmunch) (longest_of_munch? hmunch) hfits
      fun _ _ hts => .skip hspace hts
    rwa [Except.map_id] at hcons
  | case3 line s l rest hmunch hlarge =>
    have hnumber := number_of_reading (formed_of_munch? hmunch) hlarge
    exact ⟨[], s, cut_nil_iff.mpr rfl, l.chars, longest_of_munch? hmunch, hnumber⟩
  | case4 line hmunch => exact ⟨[], [], cut_nil_iff.mpr rfl, rfl, .nil⟩
  | case5 line c cs hmunch =>
    exact ⟨[], c :: cs, cut_nil_iff.mpr rfl, cs, rfl, fun w hw => not_isLexeme_of_munch? hmunch hw⟩

theorem of_scan_eq_iff (source : String) (v : Verdict) :
    Verdict.of (scan source) = v ↔ Explains source.toList v := by
  have hscan : Explains source.toList (.of (scan source)) := explains_scanFrom 1 source.toList
  constructor
  · intro h
    rwa [← h]
  · intro h
    exact hscan.unique h

/-- A script is cut into longest matches up to a place that its scan ends at: the end of the script,
where the tokens are the readings of the pieces; a character at which nothing matches; or a run of
digits whose number no word holds. -/
theorem scan_iff_cut (source : String) :
    (∀ tokens, (∃ located, scan source = .ok located ∧ located.map Located.token = tokens) ↔
      ∃ pieces, Cut source.toList pieces [] ∧ Transcribes pieces tokens) ∧
    (∀ c, (∃ line, scan source = .error (.unexpectedCharacter c line)) ↔
      ∃ pieces rest, Cut source.toList pieces (c :: rest) ∧ ∀ w, w <+: c :: rest → ¬IsLexeme w) ∧
    ((∃ line, scan source = .error (.literalTooLarge line)) ↔
      ∃ pieces rest w, Cut source.toList pieces rest ∧ Longest w rest ∧
        Pattern.number.Matches w ∧ Int64.maxValue.toInt < (Nat.ofDigitChars 10 w 0 : Int)) := by
  refine ⟨fun tokens => ?_, fun c => ?_, ?_⟩
  · rw [← Verdict.of_eq_tokens_iff, of_scan_eq_iff]
    constructor
    · intro h
      obtain ⟨pieces, rest, hcut, rfl, hts⟩ := h
      exact ⟨pieces, hcut, hts⟩
    · intro h
      obtain ⟨pieces, hcut, hts⟩ := h
      exact ⟨pieces, [], hcut, rfl, hts⟩
  · rw [← Verdict.of_eq_unexpected_iff, of_scan_eq_iff]
    constructor
    · intro h
      obtain ⟨pieces, rest, hcut, tail, rfl, hnone⟩ := h
      exact ⟨pieces, tail, hcut, hnone⟩
    · intro h
      obtain ⟨pieces, tail, hcut, hnone⟩ := h
      exact ⟨pieces, c :: tail, hcut, tail, rfl, hnone⟩
  · rw [← Verdict.of_eq_tooLarge_iff, of_scan_eq_iff]
    constructor
    · intro h
      obtain ⟨pieces, rest, hcut, w, hlarge⟩ := h
      exact ⟨pieces, rest, w, hcut, hlarge⟩
    · intro h
      obtain ⟨pieces, rest, w, hcut, hlarge⟩ := h
      exact ⟨pieces, rest, hcut, w, hlarge⟩

/-- A longer symbol and a longer word win, and a keyword is no name. -/
example : (scan "ifs<=if").map (·.map Located.token) =
    .ok [.name "ifs", .compare .lessEqual, .cond] := by
  cbv

end Scriptlet.Lexical
