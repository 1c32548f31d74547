/-!
Writing that can be taken apart again. A word of a prefix-free code is told from what follows it, so
words one after the other are read in one way only (`PrefixFree.flatMap_inj`). A text joined with
line breaks falls into its parts at these (`rows_intercalate`).
-/
namespace Scriptlet.Text

variable {α γ : Type} {f : α → List γ}

/-- No list starts with two words of the code, and a word leaves no doubt about what follows it. -/
def PrefixFree (f : α → List γ) : Prop :=
  ∀ ⦃a b u v⦄, f a ++ u = f b ++ v → a = b ∧ u = v

/-- Words of a prefix-free code, none of them empty, are told apart in a row. -/
theorem PrefixFree.flatMap_inj (h : PrefixFree f) (hne : ∀ a, f a ≠ []) {s t : List α}
    (hst : s.flatMap f = t.flatMap f) : s = t := by
  induction s generalizing t with
  | nil =>
    cases t with
    | nil => rfl
    | cons b t =>
      have hnil : f b = [] ∧ t.flatMap f = [] := List.append_eq_nil_iff.mp hst.symm
      exact absurd hnil.1 (hne b)
  | cons a s ih =>
    cases t with
    | nil =>
      have hnil : f a = [] ∧ s.flatMap f = [] := List.append_eq_nil_iff.mp hst
      exact absurd hnil.1 (hne a)
    | cons b t =>
      obtain ⟨rfl, hrest⟩ := h hst
      rw [ih hrest]

/-- A list is cut in one way at the first place of a mark. -/
theorem append_cons_inj {stop : γ} {x y u v : List γ} (hx : stop ∉ x) (hy : stop ∉ y)
    (h : x ++ stop :: u = y ++ stop :: v) : x = y ∧ u = v := by
  induction x generalizing y with
  | nil =>
    cases y with
    | nil => exact ⟨rfl, (List.cons.inj h).2⟩
    | cons b y => exact absurd (List.mem_cons.mpr (.inl (List.cons.inj h).1)) hy
  | cons a x ih =>
    cases y with
    | nil => exact absurd (List.mem_cons.mpr (.inl (List.cons.inj h).1.symm)) hx
    | cons b y =>
      obtain ⟨rfl, hrest⟩ := List.cons.inj h
      obtain ⟨rfl, huv⟩ :=
        ih (List.not_mem_of_not_mem_cons hx) (List.not_mem_of_not_mem_cons hy) hrest
      exact ⟨rfl, huv⟩

/-- A mark that no word holds ends every word. -/
theorem prefixFree_of_not_mem (h : Function.Injective f) {stop : γ} (hstop : ∀ a, stop ∉ f a) :
    PrefixFree fun a => f a ++ [stop] := by
  intro a b u v huv
  simp only [List.append_assoc, List.singleton_append] at huv
  obtain ⟨hab, hrest⟩ := append_cons_inj (hstop a) (hstop b) huv
  exact ⟨h hab, hrest⟩

/-- The parts of a text between its line breaks. -/
def rows (s : String) : List String :=
  (s.toList.splitOn '\n').map String.ofList

/-- Parts without line breaks are the rows of the text that they are joined to. -/
theorem rows_intercalate {ls : List String} (hne : ls ≠ []) (h : ∀ l ∈ ls, '\n' ∉ l.toList) :
    rows ("\n".intercalate ls) = ls := by
  have hparts : ∀ l ∈ ls.map String.toList, '\n' ∉ l := by
    intro l hl
    obtain ⟨s, hs, rfl⟩ := List.mem_map.mp hl
    exact h s hs
  rw [rows, String.toList_intercalate]
  show (List.splitOn '\n' (['\n'].intercalate (ls.map String.toList))).map String.ofList = ls
  rw [List.splitOn_intercalate '\n' hparts (by simpa using hne), List.map_map]
  simp

theorem toList_intercalate_concat (ls : List String) (last : String) :
    ("\n".intercalate (ls ++ [last])).toList =
      ls.flatMap (fun l => l.toList ++ ['\n']) ++ last.toList := by
  rw [String.toList_intercalate]
  induction ls with
  | nil => simp
  | cons l ls ih =>
    cases ls with
    | nil => simp
    | cons l' ls => simpa using ih

end Scriptlet.Text
