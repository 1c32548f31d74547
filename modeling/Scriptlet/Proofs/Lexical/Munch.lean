import Scriptlet.Proofs.Lexical.Pattern

/-!
Munching takes the longest match. The first character of a lexeme decides its pattern, so only
matches of one pattern compete at a place, and each kind of lexeme is compared with its own.
-/
namespace Scriptlet.Lexical

open Lexeme (isWordChar isBlank symbols munch? chars_append_of_munch?)

theorem isDigit_iff {c : Char} : c.isDigit = true ↔ '0' ≤ c ∧ c ≤ '9' := by
  simp [Char.isDigit, Char.le_def]

theorem isWordChar_iff {c : Char} :
    isWordChar c = true ↔ ('a' ≤ c ∧ c ≤ 'z') ∨ ('A' ≤ c ∧ c ≤ 'Z') ∨ c = '_' := by
  have hranges : isWordChar c = ((decide ('A'.val ≤ c.val ∧ c.val ≤ 'Z'.val) ||
      decide ('a'.val ≤ c.val) && decide (c.val ≤ 'z'.val)) || c == '_') := rfl
  simp only [hranges, Bool.or_eq_true, Bool.and_eq_true, decide_eq_true_eq, beq_iff_eq, Char.le_def]
  rw [or_assoc]
  exact or_left_comm

theorem isBlank_iff {c : Char} : isBlank c = true ↔ c = ' ' ∨ c = '\t' ∨ c = '\r' := by
  simp [isBlank, or_assoc]

theorem symbol_iff_mem_symbols {w : List Char} {t : Token} : Symbol w t ↔ (w, t) ∈ symbols := by
  constructor
  · intro h
    cases h <;> decide
  · intro h
    simp only [symbols, List.mem_cons, Prod.mk.injEq, List.not_mem_nil, or_false] at h
    rcases h with ⟨rfl, rfl⟩ | ⟨rfl, rfl⟩ | ⟨rfl, rfl⟩ | ⟨rfl, rfl⟩ | ⟨rfl, rfl⟩ | ⟨rfl, rfl⟩ |
      ⟨rfl, rfl⟩ | ⟨rfl, rfl⟩ | ⟨rfl, rfl⟩ | ⟨rfl, rfl⟩ | ⟨rfl, rfl⟩ | ⟨rfl, rfl⟩ | ⟨rfl, rfl⟩ |
      ⟨rfl, rfl⟩ <;> constructor

/-- The only pattern that can match at a character. -/
def Pattern.startedBy (c : Char) : Pattern :=
  if c.isDigit then number
  else if isWordChar c then word
  else if isBlank c then blanks
  else if c = '\n' then newline
  else if c = '"' then text
  else symbol

theorem Pattern.Matches.startedBy_eq {p : Pattern} {c : Char} {w : List Char}
    (h : p.Matches (c :: w)) : Pattern.startedBy c = p := by
  cases p with
  | number =>
    have hc := isDigit_iff.mpr (h.2 c List.mem_cons_self)
    simp [Pattern.startedBy, hc]
  | word =>
    have hc := isWordChar_iff.mpr (h.2 c List.mem_cons_self)
    have hd : c.isDigit = false := by
      rw [← Bool.not_eq_true, isDigit_iff]
      intro hdigit
      obtain ⟨ha, -⟩ | ⟨ha, -⟩ | rfl := isWordChar_iff.mp hc
      · exact absurd (Char.le_trans ha hdigit.2) (by decide)
      · exact absurd (Char.le_trans ha hdigit.2) (by decide)
      · exact absurd hdigit.2 (by decide)
    simp [Pattern.startedBy, hc, hd]
  | blanks =>
    obtain rfl | rfl | rfl := h.2 c List.mem_cons_self <;> rfl
  | newline =>
    obtain ⟨rfl, -⟩ := List.cons.inj h
    rfl
  | text =>
    obtain ⟨body, -, hw⟩ := h
    obtain ⟨rfl, -⟩ := List.cons.inj hw
    rfl
  | symbol =>
    obtain ⟨t, hw⟩ := h
    cases hw <;> rfl

theorem Pattern.Matches.unique {p q : Pattern} {w : List Char} (hp : p.Matches w)
    (hq : q.Matches w) : p = q := by
  obtain ⟨c, w, rfl⟩ := List.exists_cons_of_ne_nil hp.ne_nil
  exact hp.startedBy_eq.symm.trans hq.startedBy_eq

theorem forall_mem_run {f : Char → Bool} {c : Char} {cs : List Char} (hc : f c = true) :
    ∀ d ∈ c :: cs.takeWhile f, f d = true := by
  intro d hd
  obtain rfl | hd := List.mem_cons.mp hd
  · exact hc
  · exact List.all_eq_true.mp List.all_takeWhile d hd

/-- A run of characters of one class reaches no further than taking while the class lasts. -/
theorem length_le_run {f : Char → Bool} {c : Char} {v cs : List Char} (hc : f c = true)
    (hv : v <+: c :: cs) (hall : ∀ d ∈ v, f d = true) :
    v.length ≤ (c :: cs.takeWhile f).length := by
  obtain ⟨tail, htail⟩ := hv
  rw [← List.takeWhile_cons_of_pos hc, ← htail, List.takeWhile_append_of_pos hall,
    List.length_append]
  exact Nat.le_add_right _ _

/-- Up to its closing quote, a text in quotes is fixed. -/
theorem text_body_eq {body cs : List Char} (hbody : '"' ∉ body)
    (h : '"' :: body ++ ['"'] <+: '"' :: cs) : body = cs.takeWhile (· != '"') := by
  have hne : ∀ c ∈ body, (c != '"') = true := by
    intro c hc
    rw [bne_iff_ne]
    rintro rfl
    exact hbody hc
  obtain ⟨tail, ht⟩ := h
  obtain rfl : body ++ '"' :: tail = cs := by simpa using ht
  rw [List.takeWhile_append_of_pos hne]
  simp

/-- Longer symbols come before shorter ones, so the first that fits is a longest. -/
theorem length_le_of_find? {s w : List Char} {t : Token} {entry : List Char × Token}
    (hfind : symbols.find? (fun e => e.1.isPrefixOf s) = some entry) (hw : w <+: s)
    (hsymbol : Symbol w t) : w.length ≤ entry.1.length := by
  have sorted : symbols.Pairwise fun a b => b.1.length ≤ a.1.length := by decide
  obtain ⟨-, earlier, later, hsplit, hearlier⟩ := List.find?_eq_some_iff_append.mp hfind
  rw [hsplit, List.pairwise_append, List.pairwise_cons] at sorted
  obtain ⟨-, ⟨hlater, -⟩, -⟩ := sorted
  have hmem := symbol_iff_mem_symbols.mp hsymbol
  rw [hsplit, List.mem_append, List.mem_cons] at hmem
  obtain h | rfl | h := hmem
  · have hno := hearlier _ h
    simp [List.isPrefixOf_iff_prefix.mpr hw] at hno
  · exact Nat.le_refl _
  · exact hlater _ h

/-- The pattern a lexeme was taken by. -/
def pattern : Lexeme → Pattern
  | .digits _ => .number
  | .word _ => .word
  | .quoted _ => .text
  | .blanks _ => .blanks
  | .newline => .newline
  | .symbol .. => .symbol

/-- A lexeme holds characters of its own pattern. -/
def Formed : Lexeme → Prop
  | .quoted body => '"' ∉ body
  | .symbol w t => Symbol w t
  | l => (pattern l).Matches l.chars

theorem Formed.matches {l : Lexeme} (h : Formed l) : (pattern l).Matches l.chars := by
  cases l with
  | quoted body => exact ⟨body, h, rfl⟩
  | symbol w t => exact ⟨t, h⟩
  | digits _ | word _ | blanks _ | newline => exact h

theorem formed_of_munch? {s rest : List Char} {l : Lexeme} (h : munch? s = some (l, rest)) :
    Formed l := by
  revert h
  fun_cases munch? s with
  | case1 | case6 => simp
  | case2 c cs hc =>
    rintro ⟨⟩
    exact ⟨List.cons_ne_nil _ _, fun d hd => isDigit_iff.mp (forall_mem_run hc d hd)⟩
  | case3 c cs _ hc =>
    rintro ⟨⟩
    exact ⟨List.cons_ne_nil _ _, fun d hd => isWordChar_iff.mp (forall_mem_run hc d hd)⟩
  | case4 c cs _ _ hc =>
    rintro ⟨⟩
    exact ⟨List.cons_ne_nil _ _, fun d hd => isBlank_iff.mp (forall_mem_run hc d hd)⟩
  | case5 =>
    rintro ⟨⟩
    rfl
  | case7 cs =>
    rintro ⟨⟩
    intro hmem
    simpa using List.all_eq_true.mp List.all_takeWhile _ hmem
  | case8 c cs =>
    intro h
    obtain ⟨entry, hfind, h⟩ := Option.map_eq_some_iff.mp h
    cases h
    exact symbol_iff_mem_symbols.mpr (List.mem_of_find?_eq_some hfind)

/-- Among the matches of its own pattern the munched lexeme is a longest. -/
theorem length_le_of_munch? {s rest v : List Char} {l : Lexeme} (h : munch? s = some (l, rest))
    (hv : v <+: s) (hmatch : (pattern l).Matches v) : v.length ≤ l.chars.length := by
  revert h
  fun_cases munch? s with
  | case1 | case6 => simp
  | case2 c cs hc =>
    rintro ⟨⟩
    exact length_le_run hc hv fun d hd => isDigit_iff.mpr (hmatch.2 d hd)
  | case3 c cs _ hc =>
    rintro ⟨⟩
    exact length_le_run hc hv fun d hd => isWordChar_iff.mpr (hmatch.2 d hd)
  | case4 c cs _ _ hc =>
    rintro ⟨⟩
    exact length_le_run hc hv fun d hd => isBlank_iff.mpr (hmatch.2 d hd)
  | case5 =>
    rintro ⟨⟩
    rw [show v = ['\n'] from hmatch]
    exact Nat.le_refl _
  | case7 cs =>
    rintro ⟨⟩
    obtain ⟨body, hbody, rfl⟩ := hmatch
    rw [text_body_eq hbody hv]
    exact Nat.le_refl _
  | case8 c cs =>
    intro h
    obtain ⟨entry, hfind, h⟩ := Option.map_eq_some_iff.mp h
    cases h
    obtain ⟨t, ht⟩ := hmatch
    exact length_le_of_find? hfind hv ht

theorem longest_of_munch? {s rest : List Char} {l : Lexeme} (h : munch? s = some (l, rest)) :
    Longest l.chars s := by
  have hmatch := (formed_of_munch? h).matches
  have hfront : l.chars <+: s := ⟨rest, chars_append_of_munch? h⟩
  refine ⟨hfront, ⟨_, hmatch⟩, ?_⟩
  intro v hv hlexeme
  obtain ⟨p, hp⟩ := hlexeme
  -- Both start with the first character of the text, which leaves them one pattern.
  have same : p = pattern l := by
    obtain ⟨c, cs, hcs⟩ := List.exists_cons_of_ne_nil hmatch.ne_nil
    obtain ⟨d, ds, rfl⟩ := List.exists_cons_of_ne_nil hp.ne_nil
    rw [hcs] at hmatch hfront
    have hd : [d] <+: c :: cs := List.prefix_of_prefix_length_le
      ((List.prefix_append [d] ds).trans hv) hfront (by simp)
    obtain rfl : d = c := by simpa using hd
    exact hp.startedBy_eq.symm.trans hmatch.startedBy_eq
  subst same
  exact length_le_of_munch? h hv hp

/-- Where nothing is munched, nothing matches. -/
theorem not_isLexeme_of_munch? {s w : List Char} (h : munch? s = none) (hw : w <+: s) :
    ¬IsLexeme w := by
  intro hlexeme
  obtain ⟨p, hp⟩ := hlexeme
  obtain ⟨c, w, rfl⟩ := List.exists_cons_of_ne_nil hp.ne_nil
  have hstart := hp.startedBy_eq
  revert h
  fun_cases munch? s with
  | case1 => simp at hw
  | case2 | case3 | case4 | case5 | case7 => simp
  | case6 cs hnil =>
    intro _
    obtain ⟨rfl, -⟩ := List.cons_prefix_cons.mp hw
    subst hstart
    obtain ⟨body, hbody, hbw⟩ := hp
    rw [hbw] at hw
    have hall := List.takeWhile_append_dropWhile (p := (· != '"')) (l := cs)
    rw [hnil, List.append_nil] at hall
    have hlen := hw.length_le
    simp only [text_body_eq hbody hw, hall, List.length_append, List.length_cons] at hlen
    omega
  | case8 d cs h₁ h₂ h₃ h₄ h₅ =>
    intro h
    obtain ⟨rfl, -⟩ := List.cons_prefix_cons.mp hw
    have hsymbol : p = .symbol := by
      rw [← hstart]
      simp [Pattern.startedBy, h₁, h₂, h₃, h₄, h₅]
    subst hsymbol
    obtain ⟨t, ht⟩ := hp
    have hnone := List.find?_eq_none.mp (Option.map_eq_none_iff.mp h)
    exact hnone _ (symbol_iff_mem_symbols.mp ht) (List.isPrefixOf_iff_prefix.mpr hw)

end Scriptlet.Lexical
