import Scriptlet.Proofs.Grammar.Rules
import Scriptlet.Proofs.Tree.Nodes

/-!
The tokens that the parts of a tree come from. A node with an operator has it from a token on its
own line, a statement has its line from the token it starts with, and these first tokens stand in
the order of the statements.
-/
namespace Scriptlet.Grammar

variable {ts : List Located} {e node : Expr} {op : Operator}

/-- A token of the list carries the operator on the line. -/
def Shows (ts : List Located) (op : Operator) (line : Nat) : Prop :=
  ∃ t ∈ ts, t.line = line ∧ Carries t.token op

theorem Shows.mono {us : List Located} {line : Nat} (h : Shows ts op line)
    (hsub : ∀ t ∈ ts, t ∈ us) : Shows us op line := by
  obtain ⟨t, ht, hop⟩ := h
  exact ⟨t, hsub t ht, hop⟩

theorem shows_of_mem_binary {us : List Located} {l r : Expr} {t : Token} {used : Operator}
    {line : Nat} (ht : Carries t used) (ihl : node ∈ l.nodes → Shows ts op node.line)
    (ihr : node ∈ r.nodes → Shows us op node.line)
    (hnode : node ∈ (Expr.binary l used r line).nodes) (hop : node.sign? = some op) :
    Shows (ts ++ ⟨t, line⟩ :: us) op node.line := by
  rw [Expr.nodes, List.mem_cons, List.mem_append] at hnode
  obtain rfl | hl | hr := hnode
  · cases hop
    exact ⟨⟨t, line⟩, by simp, rfl, ht⟩
  · exact (ihl hl).mono fun t ht => List.mem_append_left _ ht
  · exact (ihr hr).mono fun t ht => List.mem_append_right _ (List.mem_cons_of_mem _ ht)

theorem Derives.shows {level : Level} (h : Derives level ts e) (hnode : node ∈ e.nodes)
    (hop : node.sign? = some op) : Shows ts op node.line := by
  induction h with
  | number n line | text s line | name x line =>
    obtain rfl := List.mem_singleton.mp hnode
    cases hop
  | parens opening closing _ ih => exact (ih hnode).mono fun t ht => by simp [ht]
  | operand _ ih | factor _ ih | term _ ih | side _ ih => exact ih hnode
  | minus line _ ih =>
    obtain rfl | hinner := List.mem_cons.mp hnode
    · cases hop
      exact ⟨⟨.op .sub, line⟩, List.mem_cons_self, rfl, .inl rfl⟩
    · exact (ih hinner).mono fun t ht => List.mem_cons_of_mem _ ht
  | multiplied line _ ht _ _ ihl ihr | added line _ ht _ _ ihl ihr
  | compared line _ ht _ _ ihl ihr => exact shows_of_mem_binary ht ihl ihr hnode hop

/-- The tokens hold the statement: its first token, on its line, and after that one those of its own
expression. -/
def Holds (ts : List Located) (s : Stmt) : Prop :=
  -- Not all in a row: an assignment has its sign between the name and the expression.
  ∃ t inner, Derives .comparison inner s.expr ∧ (⟨t, s.line⟩ :: inner).Sublist ts

theorem Holds.mono {us : List Located} {s : Stmt} (h : Holds ts s) (hsub : ts.Sublist us) :
    Holds us s := by
  obtain ⟨t, inner, hinner, hts⟩ := h
  exact ⟨t, inner, hinner, hts.trans hsub⟩

mutual

theorem DerivesStmt.holds {ts : List Located} {s : Stmt} (h : DerivesStmt ts s) {u : Stmt}
    (hu : u ∈ s.statements) : Holds ts u := by
  cases h with
  | print line he =>
    obtain rfl := List.mem_singleton.mp hu
    exact ⟨.print, _, he, .refl _⟩
  | @cond cs us e body line opening closing he hbody =>
    obtain rfl | hinner := List.mem_cons.mp hu
    · refine ⟨.cond, cs, he, ?_⟩
      rw [List.append_assoc]
      exact List.sublist_append_left _ _
    · have hbraces : us.Sublist (⟨.leftBrace, opening⟩ :: us ++ [⟨.rightBrace, closing⟩]) :=
        (List.sublist_cons_self _ _).trans (List.sublist_append_left _ _)
      refine (DerivesProgram.holds hbody hinner).mono ?_
      rw [List.append_assoc]
      exact hbraces.trans (List.sublist_append_right _ _)
  | assign x line sign he =>
    obtain rfl := List.mem_singleton.mp hu
    exact ⟨.name x, _, he, (List.sublist_cons_self _ _).cons_cons _⟩

theorem DerivesProgram.holds {ts : List Located} {p : Program} (h : DerivesProgram ts p) {u : Stmt}
    (hu : u ∈ p.statements) : Holds ts u := by
  cases h with
  | nil => cases hu
  | cons hs hp =>
    obtain hfirst | hrest := List.mem_append.mp hu
    · exact (DerivesStmt.holds hs hfirst).mono (List.sublist_append_left _ _)
    · exact (DerivesProgram.holds hp hrest).mono (List.sublist_append_right _ _)

end

mutual

theorem DerivesStmt.lines_sublist {ts : List Located} {s : Stmt} (h : DerivesStmt ts s) :
    (s.statements.map Stmt.line).Sublist (ts.map Located.line) := by
  cases h with
  | print line _ => exact (List.nil_sublist _).cons_cons line
  | @cond cs us _ body line opening closing _ hbody =>
    have hbody := DerivesProgram.lines_sublist hbody
    have hus : us.Sublist (cs ++ ⟨.leftBrace, opening⟩ :: us ++ [⟨.rightBrace, closing⟩]) :=
      ((List.sublist_cons_self _ _).trans (List.sublist_append_right _ _)).trans
        (List.sublist_append_left _ _)
    exact (hbody.trans (hus.map Located.line)).cons_cons line
  | assign x line sign _ => exact (List.nil_sublist _).cons_cons line

/-- Statement by statement, the lines are those of some of the tokens in their order. -/
theorem DerivesProgram.lines_sublist {ts : List Located} {p : Program} (h : DerivesProgram ts p) :
    (p.statements.map Stmt.line).Sublist (ts.map Located.line) := by
  cases h with
  | nil => exact .refl _
  | cons hs hp =>
    rw [Program.statements, List.map_append, List.map_append]
    exact (DerivesStmt.lines_sublist hs).append (DerivesProgram.lines_sublist hp)

end

/-- Where the lines of the tokens never decrease, those of the statements do not either. -/
theorem DerivesProgram.pairwise_line {p : Program} (h : DerivesProgram ts p)
    (hts : ts.Pairwise fun a b => a.line ≤ b.line) :
    p.statements.Pairwise fun s u => s.line ≤ u.line := by
  have hlines : (ts.map Located.line).Pairwise (· ≤ ·) := List.pairwise_map.mpr hts
  exact List.pairwise_map.mp (hlines.sublist h.lines_sublist)

/-- A node of a statement's own expression stands on its line or further down. -/
theorem Holds.line_le {s : Stmt} (h : Holds ts s) (hts : ts.Pairwise fun a b => a.line ≤ b.line)
    (hnode : node ∈ s.expr.nodes) (hop : node.sign? = some op) : s.line ≤ node.line := by
  obtain ⟨t, inner, hinner, hsub⟩ := h
  obtain ⟨u, hu, hline, -⟩ := hinner.shows hnode hop
  have hpair := List.pairwise_cons.mp (hts.sublist hsub)
  rw [← hline]
  exact hpair.1 u hu

end Scriptlet.Grammar
