import Scriptlet.Proofs.Lexical.Continuation
import Scriptlet.Proofs.Lexical.Segmentation
import Scriptlet.Proofs.Script.Source

/-!
Spelling tokens. A scan returns only tokens that have a spelling of their own, and tokens spelled
with one space between them are read back in order (`scanFrom_spellings`).
-/
namespace Scriptlet

/-- The tokens that a scan can return. -/
def Token.Scannable : Token → Prop
  | number n => 0 ≤ n.toInt
  | text s => '"' ∉ s.toList
  | name x => IsName x
  | op o => o.isComparison = false
  | compare o => o.isComparison = true
  | print | cond | leftBrace | rightBrace | assign | leftParen | rightParen => True
  | blank => False

instance : (t : Token) → Decidable t.Scannable
  | .number n => inferInstanceAs (Decidable (0 ≤ n.toInt))
  | .text s => inferInstanceAs (Decidable ('"' ∉ s.toList))
  | .name x => inferInstanceAs (Decidable (IsName x))
  | .op o => inferInstanceAs (Decidable (o.isComparison = false))
  | .compare o => inferInstanceAs (Decidable (o.isComparison = true))
  | .print | .cond | .leftBrace | .rightBrace | .assign | .leftParen | .rightParen =>
    .isTrue trivial
  | .blank => .isFalse nofun

namespace Lexical

open Token (scan scanFrom)

variable {t : Token} {w : List Char}

theorem reads_number {n : Int64} (h : 0 ≤ n.toInt) : Reads n.toInt.repr.toList (.number n) := by
  obtain ⟨m, hm⟩ := Int.eq_ofNat_of_zero_le h
  have hrepr : n.toInt.repr.toList = Nat.toDigits 10 m := by
    rw [hm]
    exact Nat.toList_repr
  rw [hrepr]
  refine .number ⟨Nat.toDigits_ne_nil, fun c hc => ?_⟩ ?_
  · exact isDigit_iff.mp (Nat.isDigit_of_mem_toDigits (by decide) (by decide) hc)
  · rw [Nat.ofDigitChars_toDigits (by decide) (by decide), hm]

theorem reads_name {x : String} (h : IsName x) : Reads x.toList (.name x) := by
  obtain ⟨hne, hword, hprint, hcond⟩ := h
  have hreads : Reads x.toList (.name (String.ofList x.toList)) := by
    refine .name ⟨by simpa using hne, hword⟩ (fun heq => hprint ?_) (fun heq => hcond ?_)
    · rw [← String.ofList_toList (s := x), heq]
    · rw [← String.ofList_toList (s := x), heq]
  rwa [String.ofList_toList] at hreads

/-- A token that a scan can return is read from its own spelling. -/
theorem reads_spelling (h : t.Scannable) : Reads t.spelling.toList t := by
  cases t with
  | number n => exact reads_number h
  | text s =>
    have htext : Reads ('"' :: s.toList ++ ['"']) (.text (String.ofList s.toList)) := .text h
    simpa [Token.spelling] using htext
  | name x => exact reads_name h
  | op o =>
    cases o with
    | add => exact .symbol .add
    | sub => exact .symbol .sub
    | mul => exact .symbol .mul
    | div => exact .symbol .div
    | less | greater | lessEqual | greaterEqual | equal => cases h
  | compare o =>
    cases o with
    | less => exact .symbol .less
    | greater => exact .symbol .greater
    | lessEqual => exact .symbol .lessEqual
    | greaterEqual => exact .symbol .greaterEqual
    | equal => exact .symbol .equal
    | add | sub | mul | div => cases h
  | print => exact .print
  | cond => exact .cond
  | leftBrace => exact .symbol .leftBrace
  | rightBrace => exact .symbol .rightBrace
  | assign => exact .symbol .assign
  | leftParen => exact .symbol .leftParen
  | rightParen => exact .symbol .rightParen
  | blank => exact h.elim

theorem Symbol.scannable (h : Symbol w t) : t.Scannable := by
  cases h <;> first | rfl | trivial

theorem Reads.scannable (h : Reads w t) : t.Scannable := by
  cases h with
  | number hw hn =>
    rw [Token.Scannable, hn]
    exact Int.natCast_nonneg _
  | text hbody =>
    rw [Token.Scannable, String.toList_ofList]
    exact hbody
  | print | cond => trivial
  | name hw hprint hcond =>
    have hne : ∀ {x : String}, w ≠ x.toList → String.ofList w ≠ x := by
      rintro x hx rfl
      exact hx String.toList_ofList.symm
    refine ⟨hne hw.1, ?_, hne hprint, hne hcond⟩
    rw [String.toList_ofList]
    exact hw.2
  | symbol hw => exact hw.scannable

theorem Transcribes.scannable {pieces : List (List Char)} {ts : List Token}
    (h : Transcribes pieces ts) : ∀ t ∈ ts, t.Scannable := by
  induction h with
  | nil => simp
  | skip _ _ ih => exact ih
  | token hreads _ ih => exact List.forall_mem_cons.mpr ⟨hreads.scannable, ih⟩

theorem scannable_of_scan {source : String} {ts : List Located} (h : scan source = .ok ts) :
    ∀ t ∈ ts, t.token.Scannable := by
  obtain ⟨pieces, rest, -, hholds⟩ := explains_scanFrom 1 source.toList
  rw [show scanFrom 1 source.toList = .ok ts from h] at hholds
  intro t ht
  exact hholds.2.scannable t.token (List.mem_map_of_mem ht)

/-- No token goes on over a space. -/
theorem not_continues_space {l : Lexeme} {c : Char} (h : l.reading = .token t)
    (hc : c ∈ [' ', '\t', '\r', '\n']) : Continues c l = false := by
  simp only [List.mem_cons, List.not_mem_nil, or_false] at hc
  cases l with
  | blanks cs => cases h
  | quoted _ | newline => rfl
  | digits _ | word _ | symbol _ _ => rcases hc with rfl | rfl | rfl | rfl <;> rfl

theorem complete_space {l : Lexeme} (h : l.reading = .token t) (rest : List Char) :
    Complete l (' ' :: rest) :=
  complete_cons.mpr (not_continues_space h (by decide))

/-- A text that reads as one token is scanned as that token. -/
theorem scanFrom_of_reads (h : Reads w t) (line : Nat) : scanFrom line w = .ok [⟨t, line⟩] := by
  obtain ⟨l, hl, rfl, hreading⟩ := h.exists_lexeme
  rw [scanFrom_of_munch? (munch?_chars hl), hreading, Token.scanFrom_nil]
  rfl

/-- Tokens spelled with one space between them are read back in order. -/
theorem scanFrom_spellings (line : Nat) {ts : List Token} (h : ∀ t ∈ ts, t.Scannable) :
    ∃ located, scanFrom line ([' '].intercalate (ts.map (·.spelling.toList))) = .ok located ∧
      located.map Located.token = ts := by
  induction ts generalizing line with
  | nil => exact ⟨[], Token.scanFrom_nil line, rfl⟩
  | cons t ts ih =>
    obtain ⟨ht, hts⟩ := List.forall_mem_cons.mp h
    cases ts with
    | nil =>
      rw [List.map_singleton, List.intercalate_singleton]
      exact ⟨[⟨t, line⟩], scanFrom_of_reads (reads_spelling ht) line, rfl⟩
    | cons u ts =>
      obtain ⟨l, hl, hspelling, hreading⟩ := (reads_spelling ht).exists_lexeme
      obtain ⟨located, hlocated, hmap⟩ := ih (line + l.chars.count '\n') hts
      refine ⟨⟨t, line⟩ :: located, ?_, by rw [List.map_cons, hmap]⟩
      rw [List.map_cons] at hlocated
      rw [List.map_cons, List.map_cons, List.intercalate_cons_cons, List.append_assoc,
        List.singleton_append, ← hspelling,
        scanFrom_token hl (complete_space hreading _) hreading, scanFrom_blank rfl, hlocated]
      rfl

end Lexical

end Scriptlet
