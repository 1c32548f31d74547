import Scriptlet.Proofs.Run.Begun
import Scriptlet.Proofs.Run.Steps
import Scriptlet.Proofs.Script.Stages
import Scriptlet.Proofs.Value.Faults

/-!
Where errors come from. The error of an expression is the fault of one of its nodes, on the line of
that node. The error of a run is that of the statement it began last, in the state that the run
left. No operation uses an operator as one of the other family, so that fault never shows.
-/
namespace Scriptlet

/-- The expression has a node on the line of the error, and the fault tells of its operator. -/
def Expr.Raises (e : Expr) (error : RuntimeError) : Prop :=
  ∃ node ∈ e.nodes, ∃ op, node.sign? = some op ∧ node.line = error.line ∧ error.fault.Blames op

theorem Expr.Raises.mono {e e' : Expr} {error : RuntimeError} (h : e.Raises error)
    (hnodes : ∀ node ∈ e.nodes, node ∈ e'.nodes) : e'.Raises error := by
  obtain ⟨node, hnode, hop⟩ := h
  exact ⟨node, hnodes node hnode, hop⟩

theorem Expr.raises_of_error {store : Store} {e : Expr} {error : RuntimeError}
    (h : e.eval store = .error error) : e.Raises error := by
  induction e with
  | literal value line => cases h
  | var name line => cases h
  | negate operand line ih =>
    obtain h | ⟨v, -, h⟩ := Outcome.bind_eq_error_iff.mp h
    · exact (ih h).mono fun node hnode => List.mem_cons_of_mem _ hnode
    · obtain ⟨hfault, hline⟩ := located_eq_error_iff.mp h
      exact ⟨_, self_mem_nodes _, .sub, rfl, hline.symm, Value.blames_of_negate hfault⟩
  | binary left op right line ihl ihr =>
    obtain h | ⟨a, -, h⟩ := Outcome.bind_eq_error_iff.mp h
    · exact (ihl h).mono fun node hnode => by simp [nodes, hnode]
    obtain h | ⟨b, -, h⟩ := Outcome.bind_eq_error_iff.mp h
    · exact (ihr h).mono fun node hnode => by simp [nodes, hnode]
    · obtain ⟨hfault, hline⟩ := located_eq_error_iff.mp h
      exact ⟨_, self_mem_nodes _, op, rfl, hline.symm, Value.blames_of_apply hfault⟩

/-- The statement that the run began last has the error, in the state that the run leaves. -/
def Run.StoppedBy (r : Run) (e : RuntimeError) : Prop :=
  ∃ front s, r.begun = front ++ [s] ∧ s.expr.eval r.state.store = .error e

theorem Runs.stoppedBy {p : Program} {state : State} {r : Run} {e : RuntimeError}
    (h : Runs p state r) (he : r.error? = some e) : r.StoppedBy e := by
  obtain ⟨trail, rest, -, hrest, hbegun⟩ := h.exists_trail
  obtain ⟨s, q, rfl, hs⟩ := (Run.leaves_of_error he).mp hrest
  exact ⟨trail.map Prod.fst, s, hbegun, hs⟩

theorem Program.exists_stop {p : Program} {state : State} {e : RuntimeError}
    (he : (p.run state).error? = some e) :
    ∃ front s, (p.run state).begun = front ++ [s] ∧ s ∈ p.statements ∧
      s.expr.eval (p.run state).state.store = .error e := by
  have hrun := p.runs state
  obtain ⟨front, s, hbegun, hs⟩ := hrun.stoppedBy he
  have hlast : s ∈ (p.run state).begun := by
    rw [hbegun]
    exact List.mem_append_right front List.mem_cons_self
  exact ⟨front, s, hbegun, hrun.selects.sublist.subset hlast, hs⟩

theorem Expr.eval_ne_misapplied (store : Store) (e : Expr) (used : Operator) (line : Nat) :
    e.eval store ≠ .error ⟨.misapplied used, line⟩ := by
  intro h
  obtain ⟨node, -, op, -, -, hblames⟩ := raises_of_error h
  cases hblames

theorem Program.run_ne_misapplied (p : Program) (state : State) (used : Operator) (line : Nat) :
    (p.run state).error? ≠ some ⟨.misapplied used, line⟩ := by
  intro h
  obtain ⟨front, s, -, -, hs⟩ := Program.exists_stop h
  exact s.expr.eval_ne_misapplied _ used line hs

theorem Stmt.run_ne_misapplied (s : Stmt) (state : State) (used : Operator) (line : Nat) :
    (s.run state).error? ≠ some ⟨.misapplied used, line⟩ := by
  have h := Program.run_ne_misapplied [s] state used line
  rwa [Program.run_singleton] at h

theorem Script.execute_ne_misapplied (source : String) (used : Operator) (line : Nat) :
    (execute source).result ≠ .error (.runtime ⟨.misapplied used, line⟩) := by
  intro h
  obtain ⟨ts, p, -, -, he⟩ := exists_run_of_output h
  exact p.run_ne_misapplied .initial used line he

end Scriptlet
