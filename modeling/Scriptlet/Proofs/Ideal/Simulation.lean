import Scriptlet.Proofs.Ideal.Evaluation
import Scriptlet.Proofs.Outcome

/-!
Whole runs against ideal runs. A run follows the ideal one statement by statement until it ends like
it or an overflow stops it. `run_refines_ideal` says that one of the two happens and never both, so
no run goes on with a number that differs from the exact one.
-/
namespace Scriptlet

namespace Run

/-- The run and the ideal run end alike: in the same error or none, with the same variables and the
same output. -/
def Agrees (r : Run) (i : Ideal.Run) : Prop :=
  r.error? = i.error? ∧ r.state.ideal = i.state

/-- An overflow stopped the run at a statement which the ideal run begins in the very same state,
and a node of its expression on the reported line has an exact value that no word holds. -/
def Overflows (r : Run) (i : Ideal.Run) : Prop :=
  ∃ line before s after, r.error? = some ⟨.overflow, line⟩ ∧
    r.begun = before.map Prod.fst ++ [s] ∧ i.begun = before ++ (s, r.state.ideal) :: after ∧
    ∃ node ∈ s.expr.nodes, Escapes r.state.store line node

/-- What one statement after the other keeps: the run is in step with the ideal run, or an overflow
has stopped it. -/
def Follows (r : Run) (i : Ideal.Run) : Prop :=
  (r.Agrees i ∧ r.begun = i.begun.map Prod.fst ∧ ∀ line, r.error? ≠ some ⟨.overflow, line⟩) ∨
  r.Overflows i

end Run

theorem State.ideal_print (s : State) (v : Value) :
    (s.print v).ideal = s.ideal.print v.ideal := by
  simp [State.ideal, State.print, Ideal.State.print]

theorem State.ideal_assign (s : State) (x : String) (v : Value) :
    (s.assign x v).ideal = s.ideal.assign x v.ideal := by
  simp only [State.ideal, State.assign, Ideal.State.assign, Ideal.State.mk.injEq, and_true]
  funext y
  simp only [Store.ideal, Store.get?_insert, Ideal.Store.insert]
  split <;> rfl

namespace Ideal.Run

theorem andThen_of_error {i : Run} {e : RuntimeError} (h : i.error? = some e) (g : State → Run) :
    i.andThen g = i := by
  simp [andThen, h]

theorem andThen_of_success {i : Run} (h : i.error? = none) (g : State → Run) :
    i.andThen g = { g i.state with begun := i.begun ++ (g i.state).begun } := by
  simp [andThen, h]

theorem begun_andThen (i : Run) (g : State → Run) :
    ∃ more, (i.andThen g).begun = i.begun ++ more := by
  cases h : i.error? with
  | some e => exact ⟨[], by simp [andThen_of_error h]⟩
  | none => exact ⟨(g i.state).begun, by rw [andThen_of_success h]⟩

end Ideal.Run

namespace Run.Follows

variable {r : Run} {i : Ideal.Run}

theorem andThen {f : State → Run} {g : Ideal.State → Ideal.Run} (h : r.Follows i)
    (hnext : ∀ state, (f state).Follows (g state.ideal)) :
    (r.andThen f).Follows (i.andThen g) := by
  rcases h with ⟨⟨herror, hstate⟩, hbegun, hne⟩ | ⟨line, before, s, after, herror, hr, hi, hesc⟩
  · cases he : r.error? with
    | some e =>
      rw [Run.andThen_of_error he, Ideal.Run.andThen_of_error (herror ▸ he)]
      exact .inl ⟨⟨herror, hstate⟩, hbegun, hne⟩
    | none =>
      rw [Run.andThen_of_success he, Ideal.Run.andThen_of_success (herror ▸ he), ← hstate, hbegun]
      rcases hnext r.state with ⟨hagrees, hmore, hne'⟩ |
        ⟨line, before, s, after, herror', hr, hi, hesc⟩
      · exact .inl ⟨hagrees, by simp [hmore], hne'⟩
      · exact .inr ⟨line, i.begun ++ before, s, after, herror', by simp [hr], by simp [hi], hesc⟩
  · obtain ⟨more, hmore⟩ := Ideal.Run.begun_andThen i g
    rw [Run.andThen_of_error herror]
    exact .inr ⟨line, before, s, after ++ more, herror, hr, by simp [hmore, hi], hesc⟩

/-- Every statement first evaluates its own expression. It is enough to follow the ideal run from a
value on. -/
theorem of_eval {s : Stmt} {state : State} {f : Value → Run} {g : Ideal.Value → Ideal.Run}
    (hvalue : ∀ v, (f v).Follows (g v.ideal))
    (hbegun : ∀ w, ∃ more, (g w).begun = (s, state.ideal) :: more) :
    Follows
      (match s.expr.eval state.store with
        | .ok v => f v
        | .error e => ⟨state, [s], some e⟩)
      (match Ideal.eval state.ideal.store s.expr with
        | .ok w => g w
        | .error e => ⟨state.ideal, [(s, state.ideal)], some e⟩) := by
  rcases eval_tracks state.store s.expr with ⟨hne, hideal⟩ | ⟨line, heval, node, hmem, hesc⟩
  · rw [show state.ideal.store = state.store.ideal from rfl, hideal]
    cases heval : s.expr.eval state.store with
    | ok v => exact hvalue v
    | error e =>
      refine .inl ⟨⟨rfl, rfl⟩, rfl, fun line he => hne line ?_⟩
      rw [heval, Option.some.inj he]
  · rw [heval]
    -- The ideal run begins the statement in any case, and may well go on after it.
    cases Ideal.eval state.ideal.store s.expr with
    | ok w =>
      obtain ⟨more, hmore⟩ := hbegun w
      exact .inr ⟨line, [], s, more, rfl, rfl, hmore, node, hmem, hesc⟩
    | error e => exact .inr ⟨line, [], s, [], rfl, rfl, rfl, node, hmem, hesc⟩

/-- One more statement in front of both runs. -/
theorem cons (h : r.Follows i) (s : Stmt) (state : Ideal.State) :
    Follows { r with begun := s :: r.begun } { i with begun := (s, state) :: i.begun } := by
  rcases h with ⟨hagrees, hbegun, hne⟩ | ⟨line, before, t, after, herror, hr, hi, hesc⟩
  · exact .inl ⟨hagrees, by simp [hbegun], hne⟩
  · exact .inr ⟨line, (s, state) :: before, t, after, herror, by simp [hr], by simp [hi], hesc⟩

end Run.Follows

theorem Program.run_follows_of_forall {p : Program}
    (h : ∀ s ∈ p, ∀ state : State, (s.run state).Follows (Ideal.runStmt s state.ideal))
    (state : State) : (Program.run p state).Follows (Ideal.run p state.ideal) := by
  induction p generalizing state with
  | nil =>
    rw [Program.run, Ideal.run]
    exact .inl ⟨⟨rfl, rfl⟩, rfl, by simp⟩
  | cons s p ih =>
    rw [Program.run, Ideal.run]
    exact (h s (by simp) state).andThen fun next => ih (fun t ht => h t (by simp [ht])) next

theorem Stmt.run_follows (s : Stmt) (state : State) :
    (s.run state).Follows (Ideal.runStmt s state.ideal) := by
  induction s using Stmt.ind generalizing state with
  | print value line =>
    rw [Stmt.run, Ideal.runStmt]
    refine Run.Follows.of_eval (s := .print value line) (fun v => ?_) fun w => ⟨[], rfl⟩
    exact .inl ⟨⟨rfl, state.ideal_print v⟩, rfl, by simp⟩
  | assign name value line =>
    rw [Stmt.run, Ideal.runStmt]
    refine Run.Follows.of_eval (s := .assign name value line) (fun v => ?_) fun w => ⟨[], rfl⟩
    exact .inl ⟨⟨rfl, state.ideal_assign name v⟩, rfl, by simp⟩
  | cond condition body line ih =>
    rw [Stmt.run, Ideal.runStmt]
    refine Run.Follows.of_eval (s := .cond condition body line) (fun v => ?_) fun w => ?_
    · rw [v.isTruthy_ideal]
      split
      · exact (Program.run_follows_of_forall ih state).cons _ _
      · exact .inl ⟨⟨rfl, rfl⟩, rfl, by simp⟩
    · split
      · exact ⟨_, rfl⟩
      · exact ⟨[], rfl⟩

namespace Ideal

theorem Value.apply_ne_overflow (op : Operator) (a b : Value) :
    apply op a b ≠ .error .overflow := by
  unfold apply relate
  split
  · split
    · rename_i order _
      cases op.holds? order <;> simp
    · split <;> simp
  · unfold calculate
    split
    · intro h
      exact Scriptlet.Value.arithmetic_ne_overflow op _ _ (Outcome.map_eq_error_iff.mp h)
    · split <;> simp
    · simp

theorem Value.negate_ne_overflow (v : Value) : v.negate ≠ .error .overflow := by
  cases v <;> simp [negate]

theorem located_ne_overflow {r : Except Fault Value} (h : r ≠ .error .overflow) (line place : Nat) :
    Expr.located line r ≠ .error ⟨.overflow, place⟩ := by
  intro he
  exact h (Expr.located_eq_error_iff.mp he).1

theorem eval_ne_overflow (store : Store) (e : Expr) (line : Nat) :
    eval store e ≠ .error ⟨.overflow, line⟩ := by
  induction e with
  | literal value place => simp [eval]
  | var name place => simp [eval]
  | negate operand place ih =>
    exact Outcome.bind_ne_error ih fun v => located_ne_overflow v.negate_ne_overflow place line
  | binary left op right place ihl ihr =>
    exact Outcome.bind_ne_error ihl fun a => Outcome.bind_ne_error ihr fun b =>
      located_ne_overflow (Value.apply_ne_overflow op a b) place line

theorem Run.andThen_error_ne {i : Run} {g : State → Run} {e : RuntimeError}
    (hi : i.error? ≠ some e) (hg : ∀ state, (g state).error? ≠ some e) :
    (i.andThen g).error? ≠ some e := by
  cases h : i.error? with
  | some d => rwa [andThen_of_error h]
  | none =>
    rw [andThen_of_success h]
    exact hg i.state

theorem run_ne_overflow_of_forall {p : Program} {line : Nat}
    (h : ∀ s ∈ p, ∀ state, (runStmt s state).error? ≠ some ⟨.overflow, line⟩) (state : State) :
    (run p state).error? ≠ some ⟨.overflow, line⟩ := by
  induction p generalizing state with
  | nil => simp [run]
  | cons s p ih =>
    rw [run]
    exact Run.andThen_error_ne (h s (by simp) state) fun next =>
      ih (fun t ht => h t (by simp [ht])) next

theorem runStmt_ne_overflow (s : Stmt) (line : Nat) (state : State) :
    (runStmt s state).error? ≠ some ⟨.overflow, line⟩ := by
  induction s using Stmt.ind generalizing state with
  | print value place =>
    have heval := eval_ne_overflow state.store value line
    rw [runStmt]
    split <;> simp_all
  | assign name value place =>
    have heval := eval_ne_overflow state.store value line
    rw [runStmt]
    split <;> simp_all
  | cond condition body place ih =>
    have heval := eval_ne_overflow state.store condition line
    rw [runStmt]
    split
    · split
      · exact run_ne_overflow_of_forall ih state
      · simp
    · simp_all

end Ideal

/-- A run ends as the run on unbounded integers does, or it reports an overflow at a node whose
exact value no word holds, in the state that the ideal run has before that statement; never both. -/
theorem run_refines_ideal (p : Program) (state : State) :
    let r := p.run state
    let i := Ideal.run p state.ideal
    (r.Agrees i ∨ r.Overflows i) ∧ ¬(r.Agrees i ∧ r.Overflows i) := by
  intro r i
  constructor
  · rcases Program.run_follows_of_forall (p := p) (fun s _ => s.run_follows) state with h | h
    · exact .inl h.1
    · exact .inr h
  · rintro ⟨hagrees, line, _, _, _, herror, _⟩
    have hideal : i.error? = some ⟨.overflow, line⟩ := hagrees.1 ▸ herror
    exact Ideal.run_ne_overflow_of_forall (fun s _ => Ideal.runStmt_ne_overflow s line) _ hideal

/-- Negating the least word stops a run where the ideal one goes on. -/
example :
    let p : Program := [.print (.negate (.literal (.int Int64.minValue) 1) 2) 1]
    (p.run .initial).error? = some ⟨.overflow, 2⟩ ∧
    (Ideal.run p State.initial.ideal).error? = none := by
  decide

end Scriptlet
