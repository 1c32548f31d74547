import Scriptlet.Proofs.Lexical.Continuation
import Scriptlet.Proofs.Lexical.Segmentation
import Scriptlet.Proofs.Tree.Lines

/-!
The lines that a scan tells. Followed lexeme by lexeme, a scan knows the line of every place it
comes to, so each line is one more than the line breaks before that place (`scan_lines_exact`). Only
that count matters: a text that starts further down is scanned alike (`scanFrom_add`).
-/
namespace Scriptlet

def LexError.mapLine (f : Nat → Nat) : LexError → LexError
  | unexpectedCharacter found line => unexpectedCharacter found (f line)
  | literalTooLarge line => literalTooLarge (f line)

namespace Lexical

open Lexeme (munch? chars_append_of_munch?)
open Token (scan scanFrom)

/-- The tokens are the readings of the pieces that are no space, each on the line that its piece
starts on, when the first piece starts on the given line. -/
inductive Places : Nat → List (List Char) → List Located → Prop where
  | nil {line : Nat} : Places line [] []
  | skip {line : Nat} {w : List Char} {pieces : List (List Char)} {ts : List Located} :
      IsSpace w → Places (line + w.count '\n') pieces ts → Places line (w :: pieces) ts
  | token {line : Nat} {w : List Char} {t : Token} {pieces : List (List Char)}
      {ts : List Located} : Reads w t → Places (line + w.count '\n') pieces ts →
      Places line (w :: pieces) (⟨t, line⟩ :: ts)

namespace Places

variable {line : Nat} {pieces : List (List Char)} {ts : List Located}

theorem le_line (h : Places line pieces ts) : ∀ t ∈ ts, line ≤ t.line := by
  induction h with
  | nil => simp
  | skip _ _ ih =>
    intro t ht
    exact Nat.le_trans (Nat.le_add_right _ _) (ih t ht)
  | token _ _ ih =>
    intro t ht
    rcases List.mem_cons.mp ht with rfl | ht
    · exact Nat.le_refl _
    · exact Nat.le_trans (Nat.le_add_right _ _) (ih t ht)

theorem pairwise (h : Places line pieces ts) : ts.Pairwise fun a b => a.line ≤ b.line := by
  induction h with
  | nil => exact .nil
  | skip _ _ ih => exact ih
  | token _ hrest ih =>
    refine .cons (fun t ht => ?_) ih
    exact Nat.le_trans (Nat.le_add_right _ _) (hrest.le_line t ht)

/-- A token stands after as many line breaks as the pieces before its own hold. -/
theorem split (h : Places line pieces ts) : ∀ front t back, ts = front ++ t :: back →
    ∃ before w after, pieces = before ++ w :: after ∧
      Transcribes before (front.map Located.token) ∧ Reads w t.token ∧
      t.line = line + before.flatten.count '\n' := by
  induction h with
  | nil => simp
  | @skip line w pieces ts hspace _ ih =>
    intro front t back hts
    obtain ⟨before, v, after, rfl, hbefore, hv, hline⟩ := ih front t back hts
    refine ⟨w :: before, v, after, rfl, .skip hspace hbefore, hv, ?_⟩
    rw [hline, List.flatten_cons, List.count_append]
    omega
  | @token line w u pieces ts hreads _ ih =>
    intro front t back hts
    cases front with
    | nil =>
      obtain ⟨rfl, -⟩ := List.cons.inj hts
      exact ⟨[], w, pieces, rfl, .nil, hreads, by simp⟩
    | cons first front =>
      obtain ⟨rfl, hrest⟩ := List.cons.inj hts
      obtain ⟨before, v, after, rfl, hbefore, hv, hline⟩ := ih front t back hrest
      refine ⟨w :: before, v, after, rfl, .token hreads hbefore, hv, ?_⟩
      rw [hline, List.flatten_cons, List.count_append]
      omega

end Places

/-- The outcome tells no line but that of a token's first character or of the place where the cut
ends. -/
def OnLines (line : Nat) (pieces : List (List Char)) : Except LexError (List Located) → Prop
  | .ok ts => Places line pieces ts
  | .error (.unexpectedCharacter _ found) | .error (.literalTooLarge found) =>
    found = line + pieces.flatten.count '\n'

/-- One more piece in front moves every place down by the line breaks in it. -/
theorem OnLines.cons {line : Nat} {w : List Char} {pieces : List (List Char)}
    {r : Except LexError (List Located)} {f : List Located → List Located}
    (h : OnLines (line + w.count '\n') pieces r)
    (hf : ∀ ts, Places (line + w.count '\n') pieces ts → Places line (w :: pieces) (f ts)) :
    OnLines line (w :: pieces) (r.map f) := by
  match r with
  | .ok ts => exact hf ts h
  | .error (.unexpectedCharacter ..) | .error (.literalTooLarge _) =>
    rw [OnLines] at h
    simp only [Except.map, OnLines, h, List.flatten_cons, List.count_append]
    omega

/-- Where nothing fits, a scan ends at once. -/
theorem onLines_of_stops (line : Nat) {s : List Char} (h : Stops s) :
    OnLines line [] (scanFrom line s) := by
  cases hmunch : munch? s with
  | none =>
    rw [scanFrom_of_munch?_none hmunch]
    split
    · exact .nil
    · rfl
  | some cut =>
    obtain ⟨l, rest⟩ := cut
    have hformed := formed_of_munch? hmunch
    have hlarge : ¬Fits l.chars := h l.chars (longest_of_munch? hmunch)
    rw [scanFrom_of_munch? hmunch]
    split
    · exact absurd (reads_of_reading hformed ‹_›).2 hlarge
    · exact absurd (isSpace_of_reading hformed ‹_›).2 hlarge
    · rfl

/-- A scan tells the lines of the cut of its text. -/
theorem onLines_of_cut {s rest : List Char} {pieces : List (List Char)} (h : Cut s pieces rest)
    (hstop : Stops rest) (line : Nat) : OnLines line pieces (scanFrom line s) := by
  induction pieces generalizing s line with
  | nil =>
    obtain rfl := cut_nil_iff.mp h
    exact onLines_of_stops line hstop
  | cons w pieces ih =>
    obtain ⟨tail, hs, hlong, hfits, htail⟩ := cut_cons_iff.mp h
    cases hmunch : munch? s with
    | none => exact absurd hlong.lexeme (not_isLexeme_of_munch? hmunch hlong.front)
    | some cut =>
      obtain ⟨l, after⟩ := cut
      have hformed := formed_of_munch? hmunch
      obtain rfl : l.chars = w := (longest_of_munch? hmunch).unique hlong
      obtain rfl : after = tail :=
        List.append_cancel_left ((chars_append_of_munch? hmunch).trans hs)
      have hafter := ih htail (line + l.chars.count '\n')
      rw [scanFrom_of_munch? hmunch]
      split
      · rename_i t ht
        exact hafter.cons fun ts hts => .token (reads_of_reading hformed ht).1 hts
      · rename_i hskip
        have hcons := hafter.cons (f := id) fun ts hts =>
          .skip (isSpace_of_reading hformed hskip).1 hts
        rwa [Except.map_id] at hcons
      · rename_i hlarge
        obtain ⟨hnumber, hvalue⟩ := number_of_reading hformed hlarge
        exact absurd (hfits hnumber) (Int.not_le.mpr hvalue)

theorem pairwise_line_of_scan {source : String} {tokens : List Located}
    (h : scan source = .ok tokens) : tokens.Pairwise fun a b => a.line ≤ b.line := by
  obtain ⟨pieces, rest, hcut, hholds⟩ := explains_scanFrom 1 source.toList
  have hlines := onLines_of_cut hcut hholds.stops 1
  rw [show scanFrom 1 source.toList = .ok tokens from h] at hlines
  exact hlines.pairwise

/-- A text that starts further down has its tokens and its error further down. -/
theorem scanFrom_add (k line : Nat) (s : List Char) : scanFrom (line + k) s =
    ((scanFrom line s).map (List.map (Located.mapLine (· + k)))).mapError
      (LexError.mapLine (· + k)) := by
  fun_induction scanFrom line s with
  | case1 line s l rest hmunch next t ht ih =>
    rw [scanFrom_of_munch? hmunch, ht, Nat.add_right_comm]
    dsimp only
    rw [ih]
    cases scanFrom next rest <;> rfl
  | case2 line s l rest hmunch next hskip ih =>
    rw [scanFrom_of_munch? hmunch, hskip, Nat.add_right_comm]
    exact ih
  | case3 line s l rest hmunch hlarge =>
    rw [scanFrom_of_munch? hmunch, hlarge]
    rfl
  | case4 line hmunch =>
    rw [scanFrom_of_munch?_none hmunch]
    rfl
  | case5 line c cs hmunch =>
    rw [scanFrom_of_munch?_none hmunch]
    rfl

/-- Every token stands on the line of its first character, and an error on the line of the character
or the digits it is about: one more than the line breaks before that place. So lines never decrease
along the tokens, and line breaks inside a text count only for what comes after it. -/
theorem scan_lines_exact (source : String) :
    (∀ tokens, scan source = .ok tokens →
      (∃ pieces, Cut source.toList pieces [] ∧ Transcribes pieces (tokens.map Located.token) ∧
        ∀ front t back, tokens = front ++ t :: back → ∃ before w after,
          pieces = before ++ w :: after ∧ Transcribes before (front.map Located.token) ∧
          Reads w t.token ∧ t.line = 1 + before.flatten.count '\n') ∧
      tokens.Pairwise fun a b => a.line ≤ b.line) ∧
    (∀ c line, scan source = .error (.unexpectedCharacter c line) →
      ∃ pieces rest, Cut source.toList pieces (c :: rest) ∧
        (∀ w, w <+: c :: rest → ¬IsLexeme w) ∧ line = 1 + pieces.flatten.count '\n') ∧
    (∀ line, scan source = .error (.literalTooLarge line) →
      ∃ pieces rest w, Cut source.toList pieces rest ∧ Longest w rest ∧
        Pattern.number.Matches w ∧ Int64.maxValue.toInt < (Nat.ofDigitChars 10 w 0 : Int) ∧
        line = 1 + pieces.flatten.count '\n') := by
  obtain ⟨pieces, rest, hcut, hholds⟩ := explains_scanFrom 1 source.toList
  have hlines := onLines_of_cut hcut hholds.stops 1
  refine ⟨fun tokens h => ?_, fun c line h => ?_, fun line h => ?_⟩
  · rw [show scanFrom 1 source.toList = .ok tokens from h] at hholds hlines
    obtain ⟨rfl, htranscribes⟩ := hholds
    exact ⟨⟨pieces, hcut, htranscribes, hlines.split⟩, hlines.pairwise⟩
  · rw [show scanFrom 1 source.toList = _ from h] at hholds hlines
    obtain ⟨tail, rfl, hnone⟩ := hholds
    exact ⟨pieces, tail, hcut, hnone, hlines⟩
  · rw [show scanFrom 1 source.toList = _ from h] at hholds hlines
    obtain ⟨w, hlong, hnumber, hvalue⟩ := hholds
    exact ⟨pieces, rest, w, hcut, hlong, hnumber, hvalue, hlines⟩

/-- A text in quotes stands on the line that it opens on. -/
example : scan "\n\"a\nb\" x" = .ok [⟨.text "a\nb", 2⟩, ⟨.name "x", 3⟩] := by
  cbv

end Lexical

end Scriptlet
