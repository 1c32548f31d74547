import Mathlib.Data.List.Chain
import Scriptlet.Proofs.Lexical.Spelling

/-!
Space between tokens. A token ends where its lexeme does, so only a neighbour whose first character
would make the lexeme longer has to be kept apart (`continues_iff_merges`). Everywhere else any
space or none may be written (`space_is_free_between_tokens`).
-/
namespace Scriptlet

namespace Token

def isWord : Token → Bool
  | print | cond | name _ => true
  | _ => false

def isNumber : Token → Bool
  | number _ => true
  | _ => false

/-- Written without space between them, the two tokens are no longer told apart: they are two words,
two numbers, or two symbols of which the second lengthens the first. -/
def Merges (t u : Token) : Prop :=
  (t.isWord ∧ u.isWord) ∨ (t.isNumber ∧ u.isNumber) ∨
    (t ∈ [assign, compare .less, compare .greater] ∧ u ∈ [assign, compare .equal])

instance (t u : Token) : Decidable (t.Merges u) :=
  inferInstanceAs (Decidable (_ ∨ _))

variable {t u : Token}

theorem merges_of_isWord (h : t.isWord) : t.Merges u ↔ u.isWord := by
  cases t <;> simp_all [Merges, isWord, isNumber]

theorem merges_of_isNumber (h : t.isNumber) : t.Merges u ↔ u.isNumber := by
  cases t <;> simp_all [Merges, isWord, isNumber]

end Token

/-- A token of a text and the space written before it. -/
structure Piece where
  gap : String
  token : Token

namespace Lexical

open Lexeme (isWordChar isBlank)
open Token (scan scanFrom)

/-- Only spaces, tabs, carriage returns and line breaks. -/
def IsGap (s : String) : Prop :=
  ∀ c ∈ s.toList, c ∈ [' ', '\t', '\r', '\n']

instance (s : String) : Decidable (IsGap s) :=
  List.decidableBAll _ s.toList

/-- The text of the pieces, and the space after the last of them. -/
def layout : List Piece → String → String
  | [], last => last
  | p :: pieces, last => p.gap ++ p.token.spelling ++ layout pieces last

/-- Tokens that a scan can return, in any space that leaves no two of them merged. -/
structure WellSpaced (pieces : List Piece) (last : String) : Prop where
  scannable : ∀ p ∈ pieces, p.token.Scannable
  gaps : ∀ p ∈ pieces, IsGap p.gap
  last : IsGap last
  apart : pieces.IsChain fun p q => q.gap = "" → ¬p.token.Merges q.token

section Neighbours

variable {l : Lexeme} {t u : Token} {c : Char} {w cs : List Char}

/-- The pattern that the spelling of a token matches. -/
def patternOf : Token → Pattern
  | .number _ => .number
  | .text _ => .text
  | .print | .cond | .name _ => .word
  | _ => .symbol

theorem patternOf_eq_number_iff : patternOf t = .number ↔ t.isNumber = true := by
  cases t <;> first | exact ⟨fun _ => rfl, fun _ => rfl⟩ | exact ⟨nofun, nofun⟩

theorem patternOf_eq_word_iff : patternOf t = .word ↔ t.isWord = true := by
  cases t <;> first | exact ⟨fun _ => rfl, fun _ => rfl⟩ | exact ⟨nofun, nofun⟩

theorem startedBy_eq_number_iff : Pattern.startedBy c = .number ↔ c.isDigit = true := by
  unfold Pattern.startedBy
  split_ifs <;> simp_all

theorem startedBy_eq_word_iff : Pattern.startedBy c = .word ↔ isWordChar c = true := by
  constructor
  · unfold Pattern.startedBy
    split_ifs <;> simp_all
  · intro hc
    exact (word_matches_of_all (w := []) (by simpa using hc)).startedBy_eq

theorem Reads.matches (h : Reads w t) : (patternOf t).Matches w := by
  cases h with
  | number hw _ => exact hw
  | text hbody => exact ⟨_, hbody, rfl⟩
  | print | cond => exact word_matches_of_all (by decide)
  | name hw _ _ => exact hw
  | symbol hw => cases hw <;> exact ⟨_, by constructor⟩

/-- Only the two symbols that start with it are spelled with an equals sign in front. -/
theorem Reads.eq_sign_iff (h : Reads (c :: cs) u) : c = '=' ↔ u ∈ [.assign, .compare .equal] := by
  have hstart := h.matches.startedBy_eq
  constructor
  · rintro rfl
    have hsymbol : patternOf u = .symbol := hstart.symm
    cases h with
    | symbol hu => cases hu <;> decide
    | number | name => cases hsymbol
  · intro hu
    rcases List.mem_pair.mp hu with rfl | rfl
    · cases h with
      | symbol hu => cases hu; rfl
    · cases h with
      | symbol hu => cases hu; rfl

/-- A token is lengthened by the first character of another just when the two merge. -/
theorem continues_iff_merges (hl : Formed l) (ht : l.reading = .token t) (hu : Reads (c :: cs) u) :
    Continues c l = true ↔ t.Merges u := by
  have hstart := hu.matches.startedBy_eq
  have hpattern : patternOf t = pattern l := (reads_of_reading hl ht).1.matches.unique hl.matches
  cases l with
  | digits v =>
    have hnumber : t.isNumber = true := patternOf_eq_number_iff.mp hpattern
    rw [Token.merges_of_isNumber hnumber, ← patternOf_eq_number_iff, ← hstart,
      startedBy_eq_number_iff]
    rfl
  | word v =>
    have hword : t.isWord = true := patternOf_eq_word_iff.mp hpattern
    rw [Token.merges_of_isWord hword, ← patternOf_eq_word_iff, ← hstart, startedBy_eq_word_iff]
    rfl
  | quoted body =>
    cases ht
    simp [Continues, Token.Merges, Token.isWord, Token.isNumber]
  | blanks v => cases ht
  | newline => cases ht
  | symbol v s =>
    cases ht
    rw [Continues, Bool.and_eq_true, beq_iff_eq, hu.eq_sign_iff]
    cases hl <;> simp [Token.Merges, Token.isWord, Token.isNumber]

end Neighbours

section Gaps

variable {l : Lexeme} {t : Token} {w rest : List Char} {pieces : List Piece} {last : String}

/-- A scan passes over a gap and counts its line breaks. -/
theorem scanFrom_gap (line : Nat) (hw : ∀ c ∈ w, c ∈ [' ', '\t', '\r', '\n']) :
    scanFrom line (w ++ rest) = scanFrom (line + w.count '\n') rest := by
  induction w generalizing line with
  | nil => rfl
  | cons c w ih =>
    obtain ⟨hc, htail⟩ := List.forall_mem_cons.mp hw
    rw [List.cons_append, List.count_cons]
    by_cases hbreak : c = '\n'
    · subst hbreak
      rw [scanFrom_newline, ih _ htail, beq_self_eq_true, if_pos rfl]
      congr 1
      omega
    · have hblank : isBlank c = true := isBlank_iff.mpr (by simpa [hbreak] using hc)
      rw [scanFrom_blank hblank, ih _ htail, if_neg (by simpa using hbreak), Nat.add_zero]

theorem WellSpaced.tail {p : Piece} (h : WellSpaced (p :: pieces) last) :
    WellSpaced pieces last where
  scannable := (List.forall_mem_cons.mp h.scannable).2
  gaps := (List.forall_mem_cons.mp h.gaps).2
  last := h.last
  apart := h.apart.tail

theorem IsGap.complete {s : String} (hs : IsGap s) (hl : l.reading = .token t) :
    Complete l s.toList := by
  intro c hc
  exact not_continues_space hl (hs c (List.mem_of_head? hc))

/-- What follows a token of a well-spaced text does not lengthen it. -/
theorem WellSpaced.complete {p : Piece} (h : WellSpaced (p :: pieces) last) (hl : Formed l)
    (hp : l.reading = .token p.token) : Complete l (layout pieces last).toList := by
  cases pieces with
  | nil => exact h.last.complete hp
  | cons q pieces =>
    rw [layout, String.append_assoc, String.toList_append]
    cases hgap : q.gap.toList with
    | cons c gap =>
      have hspace : c ∈ [' ', '\t', '\r', '\n'] :=
        h.tail.gaps q List.mem_cons_self c (by simp [hgap])
      exact complete_cons.mpr (not_continues_space hp hspace)
    | nil =>
      -- With nothing between them, the two tokens are known not to merge.
      have hq := reads_spelling (h.tail.scannable q List.mem_cons_self)
      obtain ⟨c, cs, hcs⟩ := List.exists_cons_of_ne_nil hq.matches.ne_nil
      have hapart : ¬p.token.Merges q.token :=
        (List.isChain_cons_cons.mp h.apart).1 (String.toList_eq_nil_iff.mp hgap)
      rw [hcs] at hq
      rw [List.nil_append, String.toList_append, hcs, List.cons_append, complete_cons,
        ← Bool.not_eq_true, continues_iff_merges hl hp hq]
      exact hapart

/-- The pieces as tokens on the lines that they come to stand on, when the text starts on the given
line. -/
def placed : Nat → List Piece → List Located
  | _, [] => []
  | line, p :: pieces =>
    let start := line + p.gap.toList.count '\n'
    ⟨p.token, start⟩ :: placed (start + p.token.spelling.toList.count '\n') pieces

/-- A scan of a well-spaced text returns its tokens. -/
theorem scanFrom_layout (h : WellSpaced pieces last) (line : Nat) :
    scanFrom line (layout pieces last).toList = .ok (placed line pieces) := by
  induction pieces generalizing line with
  | nil =>
    have hgap : scanFrom line (last.toList ++ []) = _ := scanFrom_gap line h.last
    rw [List.append_nil, Token.scanFrom_nil] at hgap
    exact hgap
  | cons p pieces ih =>
    have hgap : IsGap p.gap := h.gaps p List.mem_cons_self
    have hp := reads_spelling (h.scannable p List.mem_cons_self)
    obtain ⟨l, hl, hchars, hreading⟩ := hp.exists_lexeme
    rw [layout, String.append_assoc, String.toList_append, scanFrom_gap line hgap,
      String.toList_append, ← hchars, scanFrom_token hl (h.complete hl hreading) hreading,
      ih h.tail, hchars]
    rfl

theorem map_token_placed (line : Nat) (pieces : List Piece) :
    (placed line pieces).map Located.token = pieces.map Piece.token := by
  induction pieces generalizing line with
  | nil => rfl
  | cons p pieces ih => simp only [placed, List.map_cons, ih]

/-- A token stands below the line breaks of all that is written before it. -/
theorem getElem?_placed (line : Nat) (front : List Piece) (p : Piece) (back : List Piece) :
    (placed line (front ++ p :: back))[front.length]? =
      some ⟨p.token, line + (layout front p.gap).toList.count '\n'⟩ := by
  induction front generalizing line with
  | nil => rfl
  | cons q front ih =>
    simp only [List.cons_append, placed, List.length_cons, List.getElem?_cons_succ, ih, layout,
      String.toList_append, List.count_append, Nat.add_assoc]

end Gaps

section Merged

variable {t u : Token} {line : Nat} {w v : List Char} {ts : List Located}

theorem length_le_one_of_scanFrom {l : Lexeme} (hl : Formed l)
    (h : scanFrom line l.chars = .ok ts) : ts.length ≤ 1 := by
  rw [scanFrom_of_munch? (munch?_chars hl), Token.scanFrom_nil] at h
  split at h
  · cases h
    exact Nat.le_refl 1
  · cases h
    exact Nat.zero_le 1
  · cases h

/-- Words, and numbers, are runs of one class of characters, so two of them make one. -/
theorem exists_lexeme_append {p : Pattern} (hp : p = .word ∨ p = .number) (hw : p.Matches w)
    (hv : p.Matches v) : ∃ l, Formed l ∧ l.chars = w ++ v := by
  have hne : w ++ v ≠ [] := by simp [hw.ne_nil]
  rcases hp with rfl | rfl
  · exact ⟨.word (w ++ v), ⟨hne, List.forall_mem_append.mpr ⟨hw.2, hv.2⟩⟩, rfl⟩
  · exact ⟨.digits (w ++ v), ⟨hne, List.forall_mem_append.mpr ⟨hw.2, hv.2⟩⟩, rfl⟩

theorem map_token_ne_of_lexeme (ht : t.Scannable) (hu : u.Scannable) {p : Pattern}
    (hp : p = .word ∨ p = .number) (htp : patternOf t = p) (hup : patternOf u = p)
    (h : scan (t.spelling ++ u.spelling) = .ok ts) : ts.map Located.token ≠ [t, u] := by
  have hmatch := (reads_spelling ht).matches
  have hmatch' := (reads_spelling hu).matches
  rw [htp] at hmatch
  rw [hup] at hmatch'
  obtain ⟨l, hl, hchars⟩ := exists_lexeme_append hp hmatch hmatch'
  rw [scan, String.toList_append, ← hchars] at h
  intro htokens
  have hlength := length_le_one_of_scanFrom hl h
  rw [← List.length_map, htokens] at hlength
  simp at hlength

/-- A symbol that an equals sign lengthens is one character, and with the sign it is another
symbol. -/
theorem exists_longer_symbol (ht : t ∈ [.assign, .compare .less, .compare .greater]) :
    ∃ d s, t.spelling.toList = [d] ∧ Symbol [d, '='] s ∧ s ≠ t := by
  simp only [List.mem_cons, List.not_mem_nil, or_false] at ht
  rcases ht with rfl | rfl | rfl
  · exact ⟨'=', _, rfl, .equal, by decide⟩
  · exact ⟨'<', _, rfl, .lessEqual, by decide⟩
  · exact ⟨'>', _, rfl, .greaterEqual, by decide⟩

theorem map_token_ne_of_symbol (ht : t ∈ [.assign, .compare .less, .compare .greater])
    (hu : u ∈ [.assign, .compare .equal]) (h : scan (t.spelling ++ u.spelling) = .ok ts) :
    ts.map Located.token ≠ [t, u] := by
  obtain ⟨d, s, hd, hs, hne⟩ := exists_longer_symbol ht
  obtain ⟨rest, hrest⟩ : ∃ rest, u.spelling.toList = '=' :: rest := by
    rcases List.mem_pair.mp hu with rfl | rfl <;> exact ⟨_, rfl⟩
  have hcomplete : Complete (.symbol [d, '='] s) rest := by
    intro c _
    simp [Continues]
  have hscan := scanFrom_token (l := .symbol [d, '='] s) hs hcomplete rfl 1
  have htext : (t.spelling ++ u.spelling).toList = [d, '='] ++ rest := by
    rw [String.toList_append, hd, hrest]
    rfl
  rw [scan, htext] at h
  obtain ⟨us, -, rfl⟩ := Outcome.map_eq_ok_iff.mp (hscan.symm.trans h)
  intro htokens
  exact hne (List.cons.inj htokens).1

/-- Two tokens that merge are not read back when nothing is written between them. -/
theorem map_token_ne_of_merges (ht : t.Scannable) (hu : u.Scannable) (hmerges : t.Merges u)
    (h : scan (t.spelling ++ u.spelling) = .ok ts) : ts.map Located.token ≠ [t, u] := by
  rcases hmerges with ⟨hw, hw'⟩ | ⟨hn, hn'⟩ | ⟨hs, hs'⟩
  · exact map_token_ne_of_lexeme ht hu (.inl rfl) (patternOf_eq_word_iff.mpr hw)
      (patternOf_eq_word_iff.mpr hw') h
  · exact map_token_ne_of_lexeme ht hu (.inr rfl) (patternOf_eq_number_iff.mpr hn)
      (patternOf_eq_number_iff.mpr hn') h
  · exact map_token_ne_of_symbol hs hs' h

end Merged

/-- Tokens may be written in any space, and without space where they do not merge. A scan then
returns just these tokens, each on the line that it comes to stand on. Two tokens that merge are
never read back when they are written without space. -/
theorem space_is_free_between_tokens :
    (∀ (pieces : List Piece) (last : String), WellSpaced pieces last →
      ∃ ts, scan (layout pieces last) = .ok ts ∧
        ts.map Located.token = pieces.map Piece.token ∧
        ∀ front p back, pieces = front ++ p :: back →
          ts[front.length]? = some ⟨p.token, 1 + (layout front p.gap).toList.count '\n'⟩) ∧
    ∀ t u : Token, t.Scannable → u.Scannable → t.Merges u →
      ∀ ts, scan (t.spelling ++ u.spelling) = .ok ts → ts.map Located.token ≠ [t, u] := by
  refine ⟨fun pieces last h => ?_, fun t u ht hu hmerges ts h => ?_⟩
  · refine ⟨placed 1 pieces, scanFrom_layout h 1, map_token_placed 1 pieces, ?_⟩
    rintro front p back rfl
    exact getElem?_placed 1 front p back
  · exact map_token_ne_of_merges ht hu hmerges h

/-- After a text of two lines, `<=` and `=` need no space between them, but `<` and `==` do. -/
theorem space_is_free_between_tokens_of_text :
    (∃ ts, scan "\nx1\"a\nif\"<==\t" = .ok ts ∧ ts.map Located.token =
      [.name "x", .number 1, .text "a\nif", .compare .lessEqual, .assign] ∧
      ts[4]? = some ⟨.assign, 3⟩) ∧
    ∀ ts, scan "<==" = .ok ts → ts.map Located.token ≠ [.compare .less, .compare .equal] := by
  have hspaced : WellSpaced ([⟨"\n", .name "x"⟩, ⟨"", .number 1⟩, ⟨"", .text "a\nif"⟩,
      ⟨"", .compare .lessEqual⟩] ++ [⟨"", .assign⟩]) "\t" :=
    ⟨by decide, by decide, by decide, by decide⟩
  obtain ⟨ts, hts, htokens, hlines⟩ := space_is_free_between_tokens.1 _ _ hspaced
  refine ⟨⟨ts, hts, htokens, hlines _ ⟨"", .assign⟩ [] rfl⟩, ?_⟩
  exact space_is_free_between_tokens.2 (.compare .less) (.compare .equal) rfl rfl (by decide)

end Lexical

end Scriptlet
