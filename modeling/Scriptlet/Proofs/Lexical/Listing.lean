import Std.Data.String.ToInt
import Scriptlet.Command.Answer
import Scriptlet.Proofs.Lexical.Spelling
import Scriptlet.Proofs.Text.Quoting
import Scriptlet.Proofs.Text.Wording

/-!
Listings of tokens. Before its first parenthesis a token shows its kind, so that no two tokens are
shown alike (`Token.display_injective`), and none that a scan returns is shown with a line break in
it. A listing therefore has a line for each token and tells the whole token list
(`listing_tells_tokens`).
-/
namespace Scriptlet

open Text (Plain quoted rows)

variable {shown : Char → Bool}

theorem Operator.symbol_injective : Function.Injective symbol := by
  intro a b h
  cases a <;> cases b <;> first | rfl | exact absurd h (by decide)

namespace Token

variable {t u : Token}

theorem Kind.label_injective : Function.Injective Kind.label := by
  intro a b h
  cases a <;> cases b <;> first | rfl | exact absurd h (by decide)

/-- What a token shows behind its kind. -/
def content (shown : Char → Bool) : Token → String
  | number n => "(" ++ n.toInt.repr ++ ")"
  | text s => "(" ++ quoted shown s ++ ")"
  | op o | compare o => "(" ++ o.symbol ++ ")"
  | name x => "(" ++ x ++ ")"
  | print | cond | leftBrace | rightBrace | assign | leftParen | rightParen | blank => ""

theorem display_eq (t : Token) : t.display shown = t.kind.label ++ t.content shown := by
  have hassoc : ∀ label x : String, label ++ "(" ++ x ++ ")" = label ++ ("(" ++ x ++ ")") := by
    simp [String.append_assoc]
  cases t with
  | number _ | text _ | op _ | compare _ | name _ => exact hassoc _ _
  | print | cond | leftBrace | rightBrace | assign | leftParen | rightParen | blank =>
    exact String.append_empty.symm

theorem Kind.parenthesis_not_mem_label (k : Kind) : '(' ∉ k.label.toList := by
  cases k <;> decide

/-- The kind stands before the first parenthesis. -/
theorem takeWhile_display (shown : Char → Bool) (t : Token) :
    (t.display shown).toList.takeWhile (· != '(') = t.kind.label.toList := by
  have hlabel : ∀ c ∈ t.kind.label.toList, (c != '(') = true := by
    intro c hc
    exact bne_iff_ne.mpr fun h => t.kind.parenthesis_not_mem_label (h ▸ hc)
  have hcontent : (t.content shown).toList.takeWhile (· != '(') = [] := by
    cases t <;> simp [content]
  rw [display_eq, String.toList_append, List.takeWhile_append_of_pos hlabel, hcontent,
    List.append_nil]

theorem parens_inj {x y : String} (h : "(" ++ x ++ ")" = "(" ++ y ++ ")") : x = y :=
  (String.append_right_inj _).mp ((String.append_left_inj _).mp h)

theorem eq_of_kind_of_content (hkind : t.kind = u.kind) (h : t.content shown = u.content shown) :
    t = u := by
  cases t with
  | number n =>
    cases u with
    | number k => rw [Int64.toInt_inj.mp (Int.repr_inj.mp (parens_inj h))]
    | _ => cases hkind
  | text s =>
    cases u with
    | text r => rw [Text.quoted_injective shown (parens_inj h)]
    | _ => cases hkind
  | op o =>
    cases u with
    | op p => rw [Operator.symbol_injective (parens_inj h)]
    | _ => cases hkind
  | compare o =>
    cases u with
    | compare p => rw [Operator.symbol_injective (parens_inj h)]
    | _ => cases hkind
  | name x =>
    cases u with
    | name y => rw [parens_inj h]
    | _ => cases hkind
  | print | cond | leftBrace | rightBrace | assign | leftParen | rightParen | blank =>
    cases u <;> first | rfl | cases hkind

/-- No two tokens are shown alike. -/
theorem display_injective (shown : Char → Bool) : Function.Injective (display shown) := by
  intro t u h
  have hlabel : t.kind.label = u.kind.label := by
    apply String.toList_inj.mp
    rw [← takeWhile_display shown, h, takeWhile_display]
  rw [display_eq, display_eq, hlabel] at h
  exact eq_of_kind_of_content (Kind.label_injective hlabel) ((String.append_right_inj _).mp h)

theorem newline_not_mem_name {x : String} (h : IsName x) : '\n' ∉ x.toList := by
  intro hmem
  exact absurd (h.2.1 '\n' hmem) (by decide)

theorem newline_not_mem_display (h : t.Scannable) : '\n' ∉ (t.display shown).toList := by
  have hparens : ∀ {x : String}, '\n' ∉ x.toList → '\n' ∉ ("(" ++ x ++ ")").toList := by simp
  have hcontent : '\n' ∉ (t.content shown).toList := by
    cases t with
    | number n => exact hparens ((Text.plain_repr_int n.toInt).not_mem rfl)
    | text s => exact hparens (Text.control_not_mem_quoted (by decide) s)
    | op o | compare o => exact hparens (o.plain_symbol.not_mem rfl)
    | name x => exact hparens (newline_not_mem_name h)
    | print | cond | leftBrace | rightBrace | assign | leftParen | rightParen | blank =>
      exact List.not_mem_nil
  rw [display_eq, String.toList_append, List.mem_append]
  exact not_or.mpr ⟨t.kind.plain_label.not_mem rfl, hcontent⟩

end Token

namespace Located

theorem display_eq (t : Located) :
    t.display shown = t.line.repr ++ ":" ++ t.token.display shown := rfl

theorem toList_display (t : Located) :
    (t.display shown).toList = t.line.repr.toList ++ ':' :: (t.token.display shown).toList := by
  rw [display_eq]
  simp

/-- Digits come before the first colon, so a line and a token are told apart. -/
theorem display_injective (shown : Char → Bool) : Function.Injective (display shown) := by
  have hcolon : ∀ n : Nat, ':' ∉ n.repr.toList :=
    fun n hmem => absurd (Text.isDigit_of_mem_repr hmem) (by decide)
  intro t u h
  have hchars := congrArg String.toList h
  rw [toList_display, toList_display] at hchars
  obtain ⟨hline, htoken⟩ := Text.append_cons_inj (hcolon t.line) (hcolon u.line) hchars
  obtain ⟨t, line⟩ := t
  obtain ⟨u, line'⟩ := u
  cases Nat.repr_inj.mp (String.toList_inj.mp hline)
  cases Token.display_injective shown (String.toList_inj.mp htoken)
  rfl

theorem newline_not_mem_display {t : Located} (h : t.token.Scannable) :
    '\n' ∉ (t.display shown).toList := by
  rw [toList_display, List.mem_append, List.mem_cons]
  exact not_or.mpr ⟨(Text.plain_repr t.line).not_mem rfl,
    not_or.mpr ⟨by decide, Token.newline_not_mem_display h⟩⟩

end Located

namespace Lexical

open Token (scan listing)

variable {source other : String} {ts us : List Located}

/-- A listing has one row for each token. -/
theorem rows_listing (shown : Char → Bool) (h : ∀ t ∈ ts, t.token.Scannable) (hne : ts ≠ []) :
    rows (listing shown ts) = ts.map (Located.display shown) := by
  refine Text.rows_intercalate (by simpa using hne) fun row hrow => ?_
  obtain ⟨t, ht, rfl⟩ := List.mem_map.mp hrow
  exact Located.newline_not_mem_display (h t ht)

/-- Only no tokens at all are listed as the empty text. -/
theorem listing_ne_empty (h : ∀ t ∈ ts, t.token.Scannable) (hne : ts ≠ []) :
    listing shown ts ≠ "" := by
  intro hempty
  have hrows := rows_listing shown h hne
  obtain ⟨t, rest, rfl⟩ := List.exists_cons_of_ne_nil hne
  rw [hempty, List.map_cons] at hrows
  have hdisplay : "" = t.display shown := (List.cons.inj hrows).1
  have hchars := congrArg String.toList hdisplay
  rw [Located.toList_display] at hchars
  simp at hchars

theorem listing_inj (hts : ∀ t ∈ ts, t.token.Scannable) (hus : ∀ t ∈ us, t.token.Scannable) :
    listing shown ts = listing shown us ↔ ts = us := by
  refine ⟨fun h => ?_, fun h => h ▸ rfl⟩
  cases ts with
  | nil =>
    cases us with
    | nil => rfl
    | cons u us => exact absurd h.symm (listing_ne_empty hus (by simp))
  | cons t ts =>
    cases us with
    | nil => exact absurd h (listing_ne_empty hts (by simp))
    | cons u us =>
      have hrows := rows_listing shown hts (by simp)
      rw [h, rows_listing shown hus (by simp)] at hrows
      have hinj : ∀ t u : Located, t.display shown = u.display shown → t = u :=
        fun _ _ htu => Located.display_injective shown htu
      exact ((List.map_inj_right hinj).mp hrows).symm

/-- The listing of a script falls into one row for each of its tokens, which shows the line of the
token and the token itself, whatever texts the script holds. Two scripts have the same listing just
when they have the same tokens on the same lines. All this holds whichever characters are shown as
they are. -/
theorem listing_tells_tokens (shown : Char → Bool) (h : scan source = .ok ts) :
    Command.Emit.text source .tokens = .ok (listing Text.isShown ts) ∧
    (ts ≠ [] → rows (listing shown ts) =
      ts.map fun t => t.line.repr ++ ":" ++ t.token.display shown) ∧
    ∀ other us, scan other = .ok us → (listing shown ts = listing shown us ↔ ts = us) := by
  refine ⟨?_, fun hne => rows_listing shown (scannable_of_scan h) hne, fun other us hus => ?_⟩
  · rw [Command.Emit.text, h]
    rfl
  · exact listing_inj (scannable_of_scan h) (scannable_of_scan hus)

/-- A text over two lines is shown on one row, and not as a text with a backslash is. -/
theorem listing_tells_tokens_of_line_break :
    let ts : List Located := [⟨.print, 1⟩, ⟨.text "a\nb", 1⟩]
    let us : List Located := [⟨.print, 1⟩, ⟨.text "a\\nb", 1⟩]
    scan "print \"a\nb\"" = .ok ts ∧ scan "print \"a\\nb\"" = .ok us ∧
    rows (listing (fun _ => true) ts) = ["1:PRINT", "1:STRING(\"a\\nb\")"] ∧
    listing (fun _ => true) ts ≠ listing (fun _ => true) us := by
  intro ts us
  have hts : scan "print \"a\nb\"" = .ok ts := by with_unfolding_all rfl
  have hus : scan "print \"a\\nb\"" = .ok us := by with_unfolding_all rfl
  obtain ⟨-, hrows, hall⟩ := listing_tells_tokens (fun _ => true) hts
  refine ⟨hts, hus, (hrows (by decide)).trans (by decide), fun heq => ?_⟩
  exact absurd ((hall _ us hus).mp heq) (by decide)

end Lexical

end Scriptlet
