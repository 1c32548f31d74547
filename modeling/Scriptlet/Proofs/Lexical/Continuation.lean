import Scriptlet.Proofs.Lexical.Munch
import Scriptlet.Proofs.Outcome
import Scriptlet.Token.Scan

/-!
What may follow a lexeme. A lexeme is cut off whole exactly where the next character does not make
it longer, so a scan goes through a text lexeme by lexeme. A line break makes nothing longer: after
one the scan starts afresh (`scanFrom_append_newline`).
-/
namespace Scriptlet.Lexical

open Lexeme (isWordChar isBlank symbols munch? chars_append_of_munch?)
open Token (scanFrom)

variable {l : Lexeme} {c : Char} {s rest : List Char}

/-- The character makes a lexeme that it follows longer. -/
def Continues (c : Char) : Lexeme → Bool
  | .digits _ => c.isDigit
  | .word _ => isWordChar c
  | .blanks _ => isBlank c
  | .symbol w _ => c == '=' && [['<'], ['>'], ['=']].contains w
  | .quoted _ | .newline => false

/-- No more of the text belongs to the lexeme in front of it. -/
def Complete (l : Lexeme) (rest : List Char) : Prop :=
  ∀ c ∈ rest.head?, Continues c l = false

theorem Complete.nil : Complete l [] := by
  simp [Complete]

theorem complete_cons : Complete l (c :: rest) ↔ Continues c l = false := by
  simp [Complete]

theorem takeWhile_eq_nil {f : Char → Bool} (h : ∀ c ∈ rest.head?, f c = false) :
    rest.takeWhile f = [] ∧ rest.dropWhile f = rest := by
  cases rest with
  | nil => exact ⟨rfl, rfl⟩
  | cons c rest =>
    have hc : f c = false := h c rfl
    simp [hc]

theorem run_append {f : Char → Bool} {w : List Char} (hw : ∀ c ∈ w, f c = true)
    (h : ∀ c ∈ rest.head?, f c = false) :
    (w ++ rest).takeWhile f = w ∧ (w ++ rest).dropWhile f = rest := by
  obtain ⟨htake, hdrop⟩ := takeWhile_eq_nil h
  rw [List.takeWhile_append_of_pos hw, List.dropWhile_append_of_pos hw, htake, hdrop]
  simp

/-- The pattern that the first character starts decides what is cut off. -/
theorem munch?_cons (c : Char) (cs : List Char) : munch? (c :: cs) =
    match Pattern.startedBy c with
    | .number => some (.digits (c :: cs.takeWhile Char.isDigit), cs.dropWhile Char.isDigit)
    | .word => some (.word (c :: cs.takeWhile isWordChar), cs.dropWhile isWordChar)
    | .blanks => some (.blanks (c :: cs.takeWhile isBlank), cs.dropWhile isBlank)
    | .newline => some (.newline, cs)
    | .text =>
      match cs.dropWhile (· != '"') with
      | [] => none
      | _ :: rest => some (.quoted (cs.takeWhile (· != '"')), rest)
    | .symbol => (symbols.find? fun entry => entry.1.isPrefixOf (c :: cs)).map fun entry =>
        (.symbol entry.1 entry.2, (c :: cs).drop entry.1.length) := by
  rw [munch?, Pattern.startedBy]
  split
  · rfl
  split
  · rfl
  split
  · rfl
  split
  · rfl
  split <;> rfl

/-- A symbol that a longer one starts with is found where that one cannot go on. -/
theorem find?_symbols {w : List Char} {t : Token} (h : Symbol w t)
    (hrest : Complete (.symbol w t) rest) :
    symbols.find? (fun entry => entry.1.isPrefixOf (w ++ rest)) = some (w, t) := by
  cases h with
  | less | greater | assign =>
    cases rest with
    | nil => rfl
    | cons c rest =>
      have hc : c ≠ '=' := by simpa [complete_cons, Continues] using hrest
      have hne : ('=' == c) = false := beq_eq_false_iff_ne.mpr hc.symm
      simp [symbols, List.find?, List.isPrefixOf, hne]
  | lessEqual | greaterEqual | equal | add | sub | mul | div | leftBrace | rightBrace
  | leftParen | rightParen => rfl

/-- A lexeme that nothing continues is cut off whole. -/
theorem munch?_append (hl : Formed l) (hrest : Complete l rest) :
    munch? (l.chars ++ rest) = some (l, rest) := by
  have hmatch := hl.matches
  obtain ⟨c, w, hw⟩ := List.exists_cons_of_ne_nil hmatch.ne_nil
  have hstart : Pattern.startedBy c = pattern l := (hw ▸ hmatch).startedBy_eq
  rw [hw, List.cons_append, munch?_cons, hstart]
  cases l with
  | digits cs =>
    obtain rfl : cs = c :: w := hw
    have hall : ∀ d ∈ w, d.isDigit = true :=
      fun d hd => isDigit_iff.mpr (hl.2 d (List.mem_cons_of_mem c hd))
    simp only [pattern, run_append hall hrest]
  | word cs =>
    obtain rfl : cs = c :: w := hw
    have hall : ∀ d ∈ w, isWordChar d = true :=
      fun d hd => isWordChar_iff.mpr (hl.2 d (List.mem_cons_of_mem c hd))
    simp only [pattern, run_append hall hrest]
  | blanks cs =>
    obtain rfl : cs = c :: w := hw
    have hall : ∀ d ∈ w, isBlank d = true :=
      fun d hd => isBlank_iff.mpr (hl.2 d (List.mem_cons_of_mem c hd))
    simp only [pattern, run_append hall hrest]
  | newline =>
    obtain ⟨-, rfl⟩ : '\n' = c ∧ [] = w := by simpa [Lexeme.chars] using hw
    rfl
  | quoted body =>
    obtain ⟨-, rfl⟩ : '"' = c ∧ body ++ ['"'] = w := by simpa [Lexeme.chars] using hw
    have hall : ∀ d ∈ body, (d != '"') = true := by
      intro d hd
      rw [bne_iff_ne]
      rintro rfl
      exact hl hd
    have hquote : ∀ d ∈ ('"' :: rest).head?, (d != '"') = false := by simp
    rw [List.append_assoc, List.singleton_append]
    simp only [pattern, run_append hall hquote]
  | symbol cs t =>
    obtain rfl : cs = c :: w := hw
    simp only [pattern]
    rw [← List.cons_append, find?_symbols hl hrest]
    simp

theorem munch?_chars (hl : Formed l) : munch? l.chars = some (l, []) := by
  have hcut := munch?_append hl .nil
  rwa [List.append_nil] at hcut

/-- With a character that continues it, a lexeme is another one. -/
theorem isLexeme_of_continues (hl : Formed l) (hc : Continues c l = true) :
    IsLexeme (l.chars ++ [c]) := by
  have hmem : ∀ {P : Char → Prop} {w : List Char}, (∀ d ∈ w, P d) → P c → ∀ d ∈ w ++ [c], P d := by
    intro P w hw hPc d hd
    rcases List.mem_append.mp hd with hd | hd
    · exact hw d hd
    · rwa [List.mem_singleton.mp hd]
  cases l with
  | digits w => exact ⟨.number, by simp [Lexeme.chars], hmem hl.2 (isDigit_iff.mp hc)⟩
  | word w => exact ⟨.word, by simp [Lexeme.chars], hmem hl.2 (isWordChar_iff.mp hc)⟩
  | blanks w => exact ⟨.blanks, by simp [Lexeme.chars], hmem hl.2 (isBlank_iff.mp hc)⟩
  | quoted body => cases hc
  | newline => cases hc
  | symbol w t =>
    obtain ⟨rfl, hw⟩ : c = '=' ∧ (w = ['<'] ∨ w = ['>'] ∨ w = ['=']) := by
      simpa [Continues] using hc
    refine ⟨.symbol, ?_⟩
    rcases hw with rfl | rfl | rfl
    · exact ⟨_, .lessEqual⟩
    · exact ⟨_, .greaterEqual⟩
    · exact ⟨_, .equal⟩

/-- What a cut leaves does not belong to the lexeme that it took. -/
theorem complete_of_munch? (h : munch? s = some (l, rest)) : Complete l rest := by
  intro c hc
  rw [← Bool.not_eq_true]
  intro hcontinues
  obtain ⟨tail, rfl⟩ : ∃ tail, rest = c :: tail := List.head?_eq_some_iff.mp hc
  have hfront : l.chars ++ [c] <+: s := ⟨tail, by simp [← chars_append_of_munch? h]⟩
  have hle := (longest_of_munch? h).length_le _ hfront
    (isLexeme_of_continues (formed_of_munch? h) hcontinues)
  simp only [List.length_append, List.length_singleton] at hle
  omega

theorem not_continues_newline (l : Lexeme) : Continues '\n' l = false := by
  cases l <;> rfl

/-- More text leaves the cut as it is, where it does not make the lexeme longer. -/
theorem munch?_append_of_complete (h : munch? s = some (l, rest)) {more : List Char}
    (hmore : Complete l (rest ++ more)) : munch? (s ++ more) = some (l, rest ++ more) := by
  rw [← chars_append_of_munch? h, List.append_assoc]
  exact munch?_append (formed_of_munch? h) hmore

/-- A lexeme that is followed by anything is ended by it, whatever comes later. -/
theorem munch?_append_of_ne_nil (h : munch? s = some (l, rest)) (hrest : rest ≠ [])
    (more : List Char) : munch? (s ++ more) = some (l, rest ++ more) := by
  obtain ⟨c, tail, rfl⟩ := List.exists_cons_of_ne_nil hrest
  exact munch?_append_of_complete h (complete_cons.mpr (complete_cons.mp (complete_of_munch? h)))

/-- A line break after the text changes nothing about what is cut off its front. -/
theorem munch?_append_newline (h : munch? s = some (l, rest)) (after : List Char) :
    munch? (s ++ '\n' :: after) = some (l, rest ++ '\n' :: after) := by
  cases rest with
  | nil => exact munch?_append_of_complete h (complete_cons.mpr (not_continues_newline l))
  | cons c rest => exact munch?_append_of_ne_nil h (List.cons_ne_nil c rest) _

theorem scanFrom_of_munch? (h : munch? s = some (l, rest)) (line : Nat) :
    scanFrom line s = match l.reading with
      | .token t => (scanFrom (line + l.chars.count '\n') rest).map (⟨t, line⟩ :: ·)
      | .skip => scanFrom (line + l.chars.count '\n') rest
      | .tooLarge => .error (.literalTooLarge line) := by
  rw [scanFrom]
  split
  · rename_i hcut
    cases hcut.symm.trans h
    rfl
  · rename_i hcut
    cases hcut.symm.trans h

theorem scanFrom_of_munch?_none (h : munch? s = none) (line : Nat) :
    scanFrom line s = match s with
      | [] => .ok []
      | c :: _ => .error (.unexpectedCharacter c line) := by
  rw [scanFrom]
  split
  · rename_i hcut
    cases hcut.symm.trans h
  · rfl

theorem scanFrom_token {t : Token} (hl : Formed l) (hrest : Complete l rest)
    (ht : l.reading = .token t) (line : Nat) : scanFrom line (l.chars ++ rest) =
      (scanFrom (line + l.chars.count '\n') rest).map (⟨t, line⟩ :: ·) := by
  rw [scanFrom_of_munch? (munch?_append hl hrest), ht]

theorem scanFrom_newline (line : Nat) (rest : List Char) :
    scanFrom line ('\n' :: rest) = scanFrom (line + 1) rest := by
  have hcut : munch? ('\n' :: rest) = some (.newline, rest) := rfl
  rw [scanFrom_of_munch? hcut]
  rfl

theorem startedBy_of_isBlank (hc : isBlank c = true) : Pattern.startedBy c = .blanks := by
  rcases isBlank_iff.mp hc with rfl | rfl | rfl <;> rfl

theorem count_blanks {w : List Char} (hw : ∀ d ∈ w, isBlank d = true) : w.count '\n' = 0 :=
  List.count_eq_zero.mpr fun hmem => absurd (hw '\n' hmem) (by decide)

/-- Of a run of blanks a scan takes none or all. -/
theorem scanFrom_blank (hc : isBlank c = true) (line : Nat) (rest : List Char) :
    scanFrom line (c :: rest) = scanFrom line rest := by
  have hskip : ∀ {d : Char} (cs : List Char), isBlank d = true →
      scanFrom line (d :: cs) = scanFrom line (cs.dropWhile isBlank) := by
    intro d cs hd
    have hcut : munch? (d :: cs) =
        some (.blanks (d :: cs.takeWhile isBlank), cs.dropWhile isBlank) := by
      rw [munch?_cons, startedBy_of_isBlank hd]
    rw [scanFrom_of_munch? hcut, Lexeme.chars, count_blanks (forall_mem_run hd)]
    rfl
  rw [hskip rest hc]
  cases rest with
  | nil => rfl
  | cons d rest =>
    cases hd : isBlank d with
    | true => rw [List.dropWhile_cons_of_pos hd, hskip rest hd]
    | false => rw [List.dropWhile_cons_of_neg (by simp [hd])]

theorem count_of_munch? (h : munch? s = some (l, rest)) :
    s.count '\n' = l.chars.count '\n' + rest.count '\n' := by
  rw [← chars_append_of_munch? h, List.count_append]

/-- A scan goes on after a line break as it would at the start of a text. -/
theorem scanFrom_append_newline (line : Nat) (s after : List Char) (ts : List Located)
    (h : scanFrom line s = .ok ts) : scanFrom line (s ++ '\n' :: after) =
      (scanFrom (line + s.count '\n' + 1) after).map (ts ++ ·) := by
  revert ts
  fun_induction scanFrom line s with
  | case1 line s l rest hmunch next t ht ih =>
    intro ts h
    obtain ⟨us, hus, rfl⟩ := Outcome.map_eq_ok_iff.mp h
    rw [scanFrom_of_munch? (munch?_append_newline hmunch after), ht, count_of_munch? hmunch,
      ← Nat.add_assoc]
    dsimp only
    rw [ih us hus]
    cases scanFrom (next + rest.count '\n' + 1) after <;> rfl
  | case2 line s l rest hmunch next hskip ih =>
    intro ts h
    rw [scanFrom_of_munch? (munch?_append_newline hmunch after), hskip, count_of_munch? hmunch,
      ← Nat.add_assoc]
    exact ih ts h
  | case3 line s l rest hmunch hlarge =>
    intro ts h
    cases h
  | case4 line hmunch =>
    intro ts h
    cases h
    rw [List.nil_append, scanFrom_newline]
    exact (congrFun Except.map_id _).symm
  | case5 line c cs hmunch =>
    intro ts h
    cases h

end Scriptlet.Lexical
