import Std.Data.String.ToNat
import Scriptlet.Proofs.Text.Quoting
import Scriptlet.Proofs.Text.Wording
import Scriptlet.Tree.Outline

/-!
The lines of an outline. What stands on a line neither breaks it nor looks like its indentation, so
a line can be read back from its row of text (`Line.ofRow_render`). The number of lines, and of
quotes in them that no backslash covers, adds up over the parts (`neat_node`). The first line of a
group or a node tells its kind, and the lines below are left to be told apart (`group_append_inj`,
`node_append_inj`).
-/
namespace Scriptlet.Outline

open Text

variable {s t label name name' opening opening' closing closing' : String} {d line line' : Nat}
variable {ls inner inner' parts parts' u v : List Line} {h k m n : Nat}

theorem isPlain_of_break {c : Char} (hc : c ∈ ['\n', '\r']) : isPlain c = false := by
  simp only [List.mem_cons, List.not_mem_nil, or_false] at hc
  obtain rfl | rfl := hc <;> rfl

/-- What may stand on a line: no line break in it, no space in front, and `n` quotes that no
backslash covers. -/
structure Entry (s : String) (n : Nat) : Prop where
  control : ∀ c ∈ ['\n', '\r'], c ∉ s.toList
  space : s.toList.head? ≠ some ' '
  brings : Brings s.toList n

namespace Entry

theorem append (hs : Entry s m) (ht : Entry t n) : Entry (s ++ t) (m + n) where
  control := by
    intro c hc
    rw [String.toList_append, List.mem_append]
    exact not_or.mpr ⟨hs.control c hc, ht.control c hc⟩
  space := by
    have hspace := hs.space
    rw [String.toList_append, List.head?_append]
    cases hhead : s.toList.head? with
    | none => exact ht.space
    | some c => rwa [hhead] at hspace
  brings := by
    rw [String.toList_append]
    exact hs.brings.append ht.brings

/-- Words and marks bring no quotes. -/
theorem mark (h : Plain s ∧ '\\' ∉ s.toList ∧ s.toList.head? ≠ some ' ') : Entry s 0 where
  control := fun _ hc => h.1.not_mem (isPlain_of_break hc)
  space := h.2.2
  brings := brings_of_not_mem (h.1.not_mem rfl) h.2.1

theorem repr (n : Nat) : Entry n.repr 0 := by
  refine mark ⟨plain_repr n, fun hslash => ?_, fun hspace => ?_⟩
  · exact absurd (isDigit_of_mem_repr hslash) (by decide)
  · exact absurd (isDigit_of_mem_repr (List.mem_of_mem_head? hspace)) (by decide)

theorem repr_int (i : Int) : Entry i.repr 0 := by
  cases i with
  | ofNat n => exact repr n
  | negSucc n => exact append (s := "-") (mark (by decide)) (repr (n + 1))

theorem quoted (shown : Char → Bool) (s : String) : Entry (quoted shown s) 2 where
  control := by
    intro c hc
    exact control_not_mem_quoted (List.mem_append_right ['\x00', '\t'] (List.mem_reverse.mpr hc)) s
  space := by
    rw [toList_quoted]
    simp
  brings := brings_quoted s

end Entry

section Rows

/-- The line that a row of text shows. -/
def Line.ofRow (row : String) : Line :=
  ⟨(row.toList.takeWhile (· == ' ')).length / 4, String.ofList (row.toList.dropWhile (· == ' '))⟩

theorem Line.toList_render (l : Line) :
    l.render.toList = List.replicate (4 * l.depth) ' ' ++ l.text.toList := by
  simp [render]

theorem Line.ofRow_render {l : Line} (hl : Entry l.text n) : ofRow l.render = l := by
  obtain ⟨d, text⟩ := l
  have hindent : ∀ c ∈ List.replicate (4 * d) ' ', (c == ' ') = true :=
    fun c hc => beq_iff_eq.mpr (List.eq_of_mem_replicate hc)
  have htext : text.toList.takeWhile (· == ' ') = [] ∧
      text.toList.dropWhile (· == ' ') = text.toList := by
    have hspace := hl.space
    cases hchars : text.toList with
    | nil => exact ⟨rfl, rfl⟩
    | cons c cs =>
      have hc : c ≠ ' ' := by simpa [hchars] using hspace
      simp [hc]
  rw [ofRow, toList_render, List.takeWhile_append_of_pos hindent,
    List.dropWhile_append_of_pos hindent, htext.1, htext.2]
  simp

theorem control_not_mem_render {l : Line} (hl : Entry l.text n) {c : Char} (hc : c ∈ ['\n', '\r']) :
    c ∉ l.render.toList := by
  have hspace : c ≠ ' ' := by
    rintro rfl
    exact absurd hc (by decide)
  rw [Line.toList_render, List.mem_append]
  exact not_or.mpr ⟨fun hmem => hspace (List.eq_of_mem_replicate hmem), hl.control c hc⟩

/-- The lines as text, each with a line break behind it. -/
def chars (ls : List Line) : List Char :=
  ls.flatMap fun l => l.render.toList ++ ['\n']

/-- Lines that keep their form as text, `h` of them and with `n` uncovered quotes. -/
structure Neat (ls : List Line) (h n : Nat) : Prop where
  entries : ∀ l ∈ ls, ∃ n, Entry l.text n
  length : ls.length = h
  brings : Brings (chars ls) n

theorem Neat.append {ms : List Line} (hl : Neat ls h m) (hm : Neat ms k n) :
    Neat (ls ++ ms) (h + k) (m + n) where
  entries := by
    intro l hmem
    exact (List.mem_append.mp hmem).elim (hl.entries l) (hm.entries l)
  length := by rw [List.length_append, hl.length, hm.length]
  brings := by
    rw [chars, List.flatMap_append]
    exact hl.brings.append hm.brings

theorem Neat.congr (hl : Neat ls h m) (hh : h = k) (hm : m = n) : Neat ls k n :=
  hh ▸ hm ▸ hl

/-- Neat lines are read back from their rows. -/
theorem Neat.map_ofRow (hl : Neat ls h n) : (ls.map Line.render).map Line.ofRow = ls := by
  have hread : ∀ l ∈ ls, (Line.ofRow ∘ Line.render) l = id l := by
    intro l hmem
    obtain ⟨n, hentry⟩ := hl.entries l hmem
    exact Line.ofRow_render hentry
  rw [List.map_map, List.map_congr_left hread, List.map_id]

theorem neat_line (d : Nat) (hs : Entry s n) : Neat [⟨d, s⟩] 1 n where
  entries := by
    intro l hl
    cases List.mem_singleton.mp hl
    exact ⟨n, hs⟩
  length := rfl
  brings := by
    have hindent : ∀ c, c ≠ ' ' → c ∉ List.replicate (4 * d) ' ' :=
      fun c hc hmem => hc (List.eq_of_mem_replicate hmem)
    have hspaces := brings_of_not_mem (hindent '"' (by decide)) (hindent '\\' (by decide))
    have hbreak : Brings ['\n'] 0 := brings_of_not_mem (by decide) (by decide)
    have hchars : chars [⟨d, s⟩] = List.replicate (4 * d) ' ' ++ s.toList ++ ['\n'] := by
      simp [chars, Line.toList_render]
    rw [hchars]
    exact Nat.zero_add n ▸ (hspaces.append hs.brings).append hbreak

theorem neat_leaf (d : Nat) (hlabel : Entry label 0) (hs : Entry s n) : Neat (leaf d label s) 1 n :=
  (neat_line d ((hlabel.append hs).append (.mark (by decide)))).congr rfl (Nat.zero_add n)

theorem neat_group (d : Nat) (hlabel : Entry label 0) (hopening : Entry opening 0)
    (hclosing : Entry closing 0) (hinner : Neat inner h n) :
    Neat (group d label opening closing inner) (h + 2) n := by
  have hfirst := neat_line d (hlabel.append hopening)
  have hlast := neat_line d (hclosing.append (t := ",") (.mark (by decide)))
  exact ((hfirst.append hinner).append hlast).congr (by omega) (by omega)

theorem neat_node (d : Nat) (hlabel : Entry label 0) (hname : Entry (name ++ " \x7b") 0)
    (hparts : Neat parts h n) (line : Nat) : Neat (node d label name parts line) (h + 3) n :=
  neat_group d hlabel hname (.mark (by decide))
    (hparts.append (neat_leaf (d + 1) (.mark (by decide)) (Entry.repr line)))

end Rows

section Parts

/-- The lines that end a node, and those after it. -/
def foot (d line : Nat) (rest : List Line) : List Line :=
  leaf (d + 1) "line: " line.repr ++ ⟨d, "\x7d,"⟩ :: rest

theorem prefixFree_leaf {α : Type} (d : Nat) (label : String) {g : α → String}
    (hg : Function.Injective g) : PrefixFree fun a => leaf d label (g a) := by
  intro a b u v h
  obtain ⟨hline, hrest⟩ := List.cons.inj h
  have htext : label ++ g a ++ "," = label ++ g b ++ "," := (Line.mk.inj hline).2
  exact ⟨hg ((String.append_right_inj _).mp ((String.append_left_inj _).mp htext)), hrest⟩

theorem foot_inj (h : foot d line u = foot d line' v) : line = line' ∧ u = v := by
  obtain ⟨hline, hrest⟩ := prefixFree_leaf (d + 1) "line: " (fun _ _ => Nat.repr_inj.mp) h
  exact ⟨hline, (List.cons.inj hrest).2⟩

/-- The first line of a group tells its opening, and the lines below it are left to read. -/
theorem group_append_inj
    (h : group d label opening closing inner ++ u = group d label opening' closing' inner' ++ v) :
    opening = opening' ∧
      inner ++ ⟨d, closing ++ ","⟩ :: u = inner' ++ ⟨d, closing' ++ ","⟩ :: v := by
  obtain ⟨hline, hrest⟩ := List.cons.inj h
  refine ⟨(String.append_right_inj _).mp (Line.mk.inj hline).2, ?_⟩
  simpa using hrest

/-- The first line of a node tells its name, and its parts and its end are left to read. -/
theorem node_append_inj
    (h : node d label name parts line ++ u = node d label name' parts' line' ++ v) :
    name = name' ∧ parts ++ foot d line u = parts' ++ foot d line' v := by
  obtain ⟨hname, hrest⟩ := group_append_inj h
  refine ⟨(String.append_left_inj _).mp hname, ?_⟩
  simpa [foot] using hrest

end Parts

end Scriptlet.Outline
