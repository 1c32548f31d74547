import Std.Data.String.ToInt
import Scriptlet.Proofs.Outline.Lines

/-!
Outlines of trees. The lines of an expression or a statement are told from those after them, so that
no two trees have the same (`Expr.prefixFree_outline`, `Stmt.prefixFree_outline`). The number of
lines, and of uncovered quotes in them, depends on the shape of the tree and not on what its texts
and names hold (`Expr.neat_outline`, `Stmt.neat_outline`).
-/
namespace Scriptlet

open Outline Text

variable {shown : Char → Bool}

theorem Operator.title_injective : Function.Injective title := by
  intro a b h
  cases a <;> cases b <;> first | rfl | exact absurd h (by decide)

theorem Literal.prefixFree_outline (shown : Char → Bool) (d : Nat) :
    PrefixFree (Literal.outline shown d) := by
  intro a b u v h
  cases a with
  | int m =>
    cases b with
    | int n =>
      have hinj : Function.Injective fun n : Int64 => n.toInt.repr :=
        fun _ _ hmn => Int64.toInt_inj.mp (Int.repr_inj.mp hmn)
      obtain ⟨rfl, hrest⟩ := prefixFree_leaf (d + 1) "" hinj (group_append_inj h).2
      exact ⟨rfl, (List.cons.inj hrest).2⟩
    | text t => exact absurd (group_append_inj h).1 (by decide)
  | text s =>
    cases b with
    | int n => exact absurd (group_append_inj h).1 (by decide)
    | text t =>
      obtain ⟨rfl, hrest⟩ :=
        prefixFree_leaf (d + 1) "" (quoted_injective shown) (group_append_inj h).2
      exact ⟨rfl, (List.cons.inj hrest).2⟩

theorem Expr.prefixFree_outline (shown : Char → Bool) (d : Nat) (label : String) :
    PrefixFree (Expr.outline shown d label) := by
  intro e f u v h
  -- What follows an expression is arbitrary in the induction, so the parts of a node are read off
  -- one after the other, each with the rest of the node behind it.
  induction e generalizing d label f u v with
  | literal value line =>
    cases f with
    | literal value' line' =>
      obtain ⟨rfl, hfoot⟩ := Literal.prefixFree_outline shown (d + 1) (node_append_inj h).2
      obtain ⟨rfl, rfl⟩ := foot_inj hfoot
      exact ⟨rfl, rfl⟩
    | var _ _ | negate _ _ | binary _ _ _ _ => exact absurd (node_append_inj h).1 (by decide)
  | var name line =>
    cases f with
    | var name' line' =>
      obtain ⟨rfl, hfoot⟩ := prefixFree_leaf (d + 1) "name: " (quoted_injective shown)
        (node_append_inj h).2
      obtain ⟨rfl, rfl⟩ := foot_inj hfoot
      exact ⟨rfl, rfl⟩
    | literal _ _ | negate _ _ | binary _ _ _ _ => exact absurd (node_append_inj h).1 (by decide)
  | negate operand line ih =>
    cases f with
    | negate operand' line' =>
      obtain ⟨-, hparts⟩ := node_append_inj h
      rw [List.append_assoc, List.append_assoc] at hparts
      obtain ⟨rfl, hfoot⟩ := ih (d + 1) "expr: " (List.append_cancel_left hparts)
      obtain ⟨rfl, rfl⟩ := foot_inj hfoot
      exact ⟨rfl, rfl⟩
    | literal _ _ | var _ _ | binary _ _ _ _ => exact absurd (node_append_inj h).1 (by decide)
  | binary left op right line ihl ihr =>
    cases f with
    | binary left' op' right' line' =>
      obtain ⟨-, hparts⟩ := node_append_inj h
      simp only [List.append_assoc] at hparts
      obtain ⟨rfl, hop⟩ := ihl (d + 1) "left: " hparts
      obtain ⟨rfl, hright⟩ := prefixFree_leaf (d + 1) "op: " Operator.title_injective hop
      obtain ⟨rfl, hfoot⟩ := ihr (d + 1) "right: " hright
      obtain ⟨rfl, rfl⟩ := foot_inj hfoot
      exact ⟨rfl, rfl⟩
    | literal _ _ | var _ _ | negate _ _ => exact absurd (node_append_inj h).1 (by decide)

namespace Stmt

/-- The lines for the body of an `if`. -/
def bodyOutline (shown : Char → Bool) (d : Nat) : List Stmt → List Line
  | [] => leaf d "body: " "[]"
  | first :: rest => group d "body: " "[" "]" (outlines shown (d + 1) (first :: rest))

theorem outline_print (d : Nat) (value : Expr) (line : Nat) : (print value line).outline shown d =
    node d "" "Print" (value.outline shown (d + 1) "expr: ") line := by
  rw [outline]

theorem outline_assign (d : Nat) (name : String) (value : Expr) (line : Nat) :
    (assign name value line).outline shown d =
      node d "" "Assignment" (leaf (d + 1) "name: " (quoted shown name) ++
        value.outline shown (d + 1) "value: ") line := by
  rw [outline]

theorem outline_cond (d : Nat) (condition : Expr) (body : List Stmt) (line : Nat) :
    (cond condition body line).outline shown d =
      node d "" "If" (condition.outline shown (d + 1) "condition: " ++
        bodyOutline shown (d + 1) body) line := by
  cases body <;> simp only [outline, bodyOutline]

theorem exists_outline_eq_cons (shown : Char → Bool) (s : Stmt) (d : Nat) :
    ∃ text rest, s.outline shown d = ⟨d, text⟩ :: rest := by
  cases s with
  | print _ _ => exact ⟨_, _, outline_print ..⟩
  | assign _ _ _ => exact ⟨_, _, outline_assign ..⟩
  | cond _ _ _ => exact ⟨_, _, outline_cond ..⟩

variable {body body' : List Stmt} {d : Nat} {u v : List Line}

theorem outlines_ne_of_head (s : Stmt) (hu : ∀ l ∈ u.head?, l.depth ≠ d) :
    u ≠ outlines shown d (s :: body) ++ v := by
  rintro rfl
  obtain ⟨text, rest, hs⟩ := s.exists_outline_eq_cons shown d
  simp [outlines, hs] at hu

/-- Statements are told apart in a row when a line at another depth, or none, comes after them. -/
theorem outlines_append_inj
    (hbody : ∀ s ∈ body, ∀ d t u v, s.outline shown d ++ u = t.outline shown d ++ v → s = t ∧ u = v)
    (hu : ∀ l ∈ u.head?, l.depth ≠ d) (hv : ∀ l ∈ v.head?, l.depth ≠ d)
    (h : outlines shown d body ++ u = outlines shown d body' ++ v) : body = body' ∧ u = v := by
  -- A statement starts at depth `d`, so neither row can stop where the other has one more.
  induction body generalizing body' with
  | nil =>
    cases body' with
    | nil => exact ⟨rfl, h⟩
    | cons t body' => exact absurd h (outlines_ne_of_head t hu)
  | cons s body ih =>
    cases body' with
    | nil => exact absurd h.symm (outlines_ne_of_head s hv)
    | cons t body' =>
      obtain ⟨hs, hrest⟩ := List.forall_mem_cons.mp hbody
      simp only [outlines, List.append_assoc] at h
      obtain ⟨rfl, hmore⟩ := hs d t _ _ h
      obtain ⟨rfl, huv⟩ := ih hrest hmore
      exact ⟨rfl, huv⟩

theorem bodyOutline_append_inj
    (hbody : ∀ s ∈ body, ∀ d t u v, s.outline shown d ++ u = t.outline shown d ++ v → s = t ∧ u = v)
    (h : bodyOutline shown d body ++ u = bodyOutline shown d body' ++ v) :
    body = body' ∧ u = v := by
  have hempty : "body: " ++ "[]" ++ "," ≠ "body: " ++ "[" := by decide
  cases body with
  | nil =>
    cases body' with
    | nil => exact ⟨rfl, (List.cons.inj h).2⟩
    | cons t body' => exact absurd (Line.mk.inj (List.cons.inj h).1).2 hempty
  | cons s body =>
    cases body' with
    | nil => exact absurd (Line.mk.inj (List.cons.inj h).1).2.symm hempty
    | cons t body' =>
      obtain ⟨hrest, htail⟩ := outlines_append_inj hbody (by simp) (by simp) (group_append_inj h).2
      exact ⟨hrest, (List.cons.inj htail).2⟩

theorem prefixFree_outline (shown : Char → Bool) (d : Nat) : PrefixFree (outline shown d) := by
  intro s t u v h
  induction s using Stmt.ind generalizing d t u v with
  | print value line =>
    cases t with
    | print value' line' =>
      rw [outline_print, outline_print] at h
      obtain ⟨rfl, hfoot⟩ := Expr.prefixFree_outline shown (d + 1) "expr: " (node_append_inj h).2
      obtain ⟨rfl, rfl⟩ := foot_inj hfoot
      exact ⟨rfl, rfl⟩
    | assign _ _ _ | cond _ _ _ =>
      simp only [outline_print, outline_assign, outline_cond] at h
      exact absurd (node_append_inj h).1 (by decide)
  | assign name value line =>
    cases t with
    | assign name' value' line' =>
      rw [outline_assign, outline_assign] at h
      obtain ⟨-, hparts⟩ := node_append_inj h
      simp only [List.append_assoc] at hparts
      obtain ⟨rfl, hvalue⟩ := prefixFree_leaf (d + 1) "name: " (quoted_injective shown) hparts
      obtain ⟨rfl, hfoot⟩ := Expr.prefixFree_outline shown (d + 1) "value: " hvalue
      obtain ⟨rfl, rfl⟩ := foot_inj hfoot
      exact ⟨rfl, rfl⟩
    | print _ _ | cond _ _ _ =>
      simp only [outline_print, outline_assign, outline_cond] at h
      exact absurd (node_append_inj h).1 (by decide)
  | cond condition body line hbody =>
    cases t with
    | cond condition' body' line' =>
      rw [outline_cond, outline_cond] at h
      obtain ⟨-, hparts⟩ := node_append_inj h
      simp only [List.append_assoc] at hparts
      obtain ⟨rfl, hblock⟩ := Expr.prefixFree_outline shown (d + 1) "condition: " hparts
      obtain ⟨rfl, hfoot⟩ := bodyOutline_append_inj hbody hblock
      obtain ⟨rfl, rfl⟩ := foot_inj hfoot
      exact ⟨rfl, rfl⟩
    | print _ _ | assign _ _ _ =>
      simp only [outline_print, outline_assign, outline_cond] at h
      exact absurd (node_append_inj h).1 (by decide)

end Stmt

section Shape

def Literal.texts : Literal → List String
  | int _ => []
  | text s => [s]

/-- The texts and names of an expression in the order of its outline. -/
def Expr.texts : Expr → List String
  | literal value _ => value.texts
  | var name _ => [name]
  | negate operand _ => operand.texts
  | binary left _ right _ => left.texts ++ right.texts

/-- The number of lines in the outline of an expression. -/
def Expr.height : Expr → Nat
  | literal _ _ => 6
  | var _ _ => 4
  | negate operand _ => operand.height + 4
  | binary left _ right _ => left.height + right.height + 4

mutual

def Stmt.texts : Stmt → List String
  | .print value _ => value.texts
  | .assign name value _ => name :: value.texts
  | .cond condition body _ => condition.texts ++ Program.texts body

def Program.texts : Program → List String
  | [] => []
  | s :: p => s.texts ++ Program.texts p

end

mutual

def Stmt.height : Stmt → Nat
  | .print value _ => value.height + 3
  | .assign _ value _ => value.height + 4
  | .cond condition body _ =>
    condition.height + (if body.isEmpty then 1 else Program.height body + 2) + 3

def Program.height : Program → Nat
  | [] => 0
  | s :: p => s.height + Program.height p

end

theorem Operator.entry_title (op : Operator) : Entry op.title 0 := by
  cases op <;> exact .mark (by decide)

theorem Literal.neat_outline (d : Nat) (value : Literal) :
    Neat (value.outline shown d) 3 (2 * value.texts.length) := by
  cases value with
  | int n =>
    exact neat_group d (.mark (by decide)) (.mark (by decide)) (.mark (by decide))
      (neat_leaf (d + 1) (.mark (by decide)) (Entry.repr_int n.toInt))
  | text s =>
    exact neat_group d (.mark (by decide)) (.mark (by decide)) (.mark (by decide))
      (neat_leaf (d + 1) (.mark (by decide)) (.quoted shown s))

/-- The lines of an expression and the quotes in them are as many as its shape says. -/
theorem Expr.neat_outline (d : Nat) {label : String} (hlabel : Entry label 0) (e : Expr) :
    Neat (e.outline shown d label) e.height (2 * e.texts.length) := by
  induction e generalizing d label with
  | literal value line =>
    exact neat_node d hlabel (.mark (by decide)) (value.neat_outline (d + 1)) line
  | var name line =>
    exact neat_node d hlabel (.mark (by decide))
      (neat_leaf (d + 1) (.mark (by decide)) (.quoted shown name)) line
  | negate operand line ih =>
    have hop : Neat (leaf (d + 1) "op: " "Negate") 1 0 :=
      neat_leaf (d + 1) (.mark (by decide)) (.mark (by decide))
    have hoperand : Neat (operand.outline shown (d + 1) "expr: ") _ _ :=
      ih (d + 1) (.mark (by decide))
    refine (neat_node d hlabel (.mark (by decide)) (hop.append hoperand) line).congr ?_
      (Nat.zero_add _)
    rw [height]
    omega
  | binary left op right line ihl ihr =>
    have hop : Neat (leaf (d + 1) "op: " op.title) 1 0 :=
      neat_leaf (d + 1) (.mark (by decide)) op.entry_title
    have hleft : Neat (left.outline shown (d + 1) "left: ") _ _ := ihl (d + 1) (.mark (by decide))
    have hright : Neat (right.outline shown (d + 1) "right: ") _ _ :=
      ihr (d + 1) (.mark (by decide))
    refine (neat_node d hlabel (.mark (by decide)) ((hleft.append hop).append hright)
      line).congr ?_ ?_
    · rw [height]
      omega
    · rw [texts, List.length_append]
      omega

/-- The lines of statements and the quotes in them, from those of each. -/
theorem Stmt.neat_outlines {body : List Stmt} {d : Nat}
    (hbody : ∀ s ∈ body, Neat (s.outline shown d) s.height (2 * s.texts.length)) :
    Neat (outlines shown d body) (Program.height body) (2 * (Program.texts body).length) := by
  induction body with
  | nil => exact ⟨by simp [outlines], rfl, brings_of_not_mem List.not_mem_nil List.not_mem_nil⟩
  | cons s body ih =>
    obtain ⟨hs, hrest⟩ := List.forall_mem_cons.mp hbody
    refine (hs.append (ih hrest)).congr rfl ?_
    rw [Program.texts, List.length_append]
    omega

theorem Stmt.neat_bodyOutline {body : List Stmt} {d : Nat}
    (hbody : ∀ s ∈ body, ∀ d, Neat (s.outline shown d) s.height (2 * s.texts.length)) :
    Neat (bodyOutline shown d body) (if body.isEmpty then 1 else Program.height body + 2)
      (2 * (Program.texts body).length) := by
  cases body with
  | nil => exact neat_leaf d (.mark (by decide)) (.mark (by decide))
  | cons first rest =>
    exact neat_group d (.mark (by decide)) (.mark (by decide)) (.mark (by decide))
      (neat_outlines fun s hs => hbody s hs (d + 1))

theorem Stmt.neat_outline (d : Nat) (s : Stmt) :
    Neat (s.outline shown d) s.height (2 * s.texts.length) := by
  induction s using Stmt.ind generalizing d with
  | print value line =>
    rw [outline_print]
    exact neat_node d (.mark (by decide)) (.mark (by decide))
      (value.neat_outline (d + 1) (.mark (by decide))) line
  | assign name value line =>
    have hname : Neat (leaf (d + 1) "name: " (quoted shown name)) 1 2 :=
      neat_leaf (d + 1) (.mark (by decide)) (.quoted shown name)
    have hvalue : Neat (value.outline shown (d + 1) "value: ") _ _ :=
      value.neat_outline (d + 1) (.mark (by decide))
    rw [outline_assign]
    refine (neat_node d (.mark (by decide)) (.mark (by decide)) (hname.append hvalue)
      line).congr ?_ ?_
    · rw [height]
      omega
    · rw [texts, List.length_cons]
      omega
  | cond condition body line hbody =>
    have hcondition : Neat (condition.outline shown (d + 1) "condition: ") _ _ :=
      condition.neat_outline (d + 1) (.mark (by decide))
    rw [outline_cond]
    refine (neat_node d (.mark (by decide)) (.mark (by decide))
      (hcondition.append (neat_bodyOutline hbody)) line).congr ?_ ?_
    · rw [height]
    · rw [texts, List.length_append]
      omega

end Shape

end Scriptlet
