import Scriptlet.Proofs.Outline.Trees

/-!
Outlines of programs. The rows of the text are its brackets and the lines between them
(`rows_outline`), which are read back and taken apart into statements. So no two programs have the
same outline, whichever characters are shown as they are, and what a text or a name holds adds no
row and no uncovered quote.
-/
namespace Scriptlet.Program

open Outline Text

variable {shown : Char → Bool} {p q : Program}

/-- The rows of an outline. -/
def layout (shown : Char → Bool) : Program → List String
  | [] => ["[]"]
  | s :: p => "[" :: (Stmt.outlines shown 1 (s :: p)).map Line.render ++ ["]"]

theorem outline_eq_intercalate (shown : Char → Bool) (p : Program) :
    p.outline shown = "\n".intercalate (p.layout shown) := by
  cases p <;> rfl

theorem neat_outlines (shown : Char → Bool) (p : Program) (d : Nat) :
    Neat (Stmt.outlines shown d p) p.height (2 * p.texts.length) :=
  Stmt.neat_outlines fun s _ => s.neat_outline d

theorem control_not_mem_layout {c : Char} (hc : c ∈ ['\n', '\r']) (p : Program) :
    ∀ row ∈ p.layout shown, c ∉ row.toList := by
  have hbreak := isPlain_of_break hc
  have hplain : Plain "[]" ∧ Plain "[" ∧ Plain "]" := by decide
  cases p with
  | nil =>
    intro row hrow
    cases List.mem_singleton.mp hrow
    exact hplain.1.not_mem hbreak
  | cons s p =>
    intro row hrow
    simp only [layout, List.cons_append, List.mem_cons, List.mem_append, List.mem_map,
      List.not_mem_nil, or_false] at hrow
    obtain rfl | ⟨l, hl, rfl⟩ | rfl := hrow
    · exact hplain.2.1.not_mem hbreak
    · obtain ⟨n, hentry⟩ := (neat_outlines shown (s :: p) 1).entries l hl
      exact control_not_mem_render hentry hc
    · exact hplain.2.2.not_mem hbreak

theorem rows_outline (shown : Char → Bool) (p : Program) :
    rows (p.outline shown) = p.layout shown := by
  rw [outline_eq_intercalate]
  exact rows_intercalate (by cases p <;> simp [layout]) (control_not_mem_layout (by decide) p)

theorem layout_injective (shown : Char → Bool) : Function.Injective (layout shown) := by
  intro p q h
  have hopen : "[]" ≠ "[" := by decide
  cases p with
  | nil =>
    cases q with
    | nil => rfl
    | cons t q => exact absurd (List.cons.inj h).1 hopen
  | cons s p =>
    cases q with
    | nil => exact absurd (List.cons.inj h).1.symm hopen
    | cons t q =>
      -- Between the brackets stand the lines as text, and text gives back the lines.
      have hlines : Stmt.outlines shown 1 (s :: p) = Stmt.outlines shown 1 (t :: q) := by
        rw [← (neat_outlines shown (s :: p) 1).map_ofRow,
          ← (neat_outlines shown (t :: q) 1).map_ofRow,
          List.append_cancel_right (List.cons.inj h).2]
      exact (Stmt.outlines_append_inj (fun s _ d _ _ _ => (s.prefixFree_outline shown d ·))
        (by simp) (by simp) (congrArg (· ++ []) hlines)).1

theorem outline_inj : p.outline shown = q.outline shown ↔ p = q := by
  refine ⟨fun h => layout_injective shown ?_, fun h => h ▸ rfl⟩
  rw [← rows_outline, ← rows_outline, h]

theorem length_layout (p : Program) :
    (p.layout shown).length = if p.isEmpty then 1 else p.height + 2 := by
  cases p with
  | nil => rfl
  | cons s p =>
    have hlength := (neat_outlines shown (s :: p) 1).length
    simp [layout, hlength]

theorem bareQuotes_outline (p : Program) :
    bareQuotes (p.outline shown).toList = 2 * p.texts.length := by
  cases p with
  | nil =>
    have hempty : bareQuotes "[]".toList = 0 := by decide
    exact hempty
  | cons s p =>
    have hopen : Brings ['[', '\n'] 0 := brings_of_not_mem (by decide) (by decide)
    have hclose : bareQuotes [']'] = 0 := rfl
    have htext : (outline shown (s :: p)).toList =
        ['[', '\n'] ++ chars (Stmt.outlines shown 1 (s :: p)) ++ [']'] := by
      rw [outline_eq_intercalate, layout, toList_intercalate_concat, List.flatMap_cons,
        List.flatMap_map]
      rfl
    rw [htext, hopen.append (neat_outlines shown (s :: p) 1).brings, hclose]
    omega

/-- No two programs have the same outline. How many rows it has and how many uncovered quotes
depends on the shape of the program alone, and no row holds another kind of line break. -/
theorem outline_tells_program (shown : Char → Bool) :
    (∀ p q : Program, p.outline shown = q.outline shown ↔ p = q) ∧
      ∀ p : Program,
        (rows (p.outline shown)).length = (if p.isEmpty then 1 else p.height + 2) ∧
          '\r' ∉ (p.outline shown).toList ∧
          bareQuotes (p.outline shown).toList = 2 * p.texts.length := by
  refine ⟨fun p q => outline_inj, fun p => ⟨?_, ?_, bareQuotes_outline p⟩⟩
  · rw [rows_outline]
    exact length_layout p
  · rw [outline_eq_intercalate]
    exact not_mem_intercalate (by decide) (control_not_mem_layout (by decide) p)

end Scriptlet.Program
