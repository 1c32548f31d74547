import Scriptlet.Proofs.Tree.Nodes
import Scriptlet.Run

/-!
Runs by rules. A run is empty, or its first statement fails in its own expression, or that statement
goes through and the run goes on, for an `if` maybe by way of its body. `runs_iff` says that the
rules and `Program.run` agree, so an induction on the rules covers every run.
-/
namespace Scriptlet

namespace Run

/-- The run with other statements begun before its own. -/
def after (r : Run) (before : List Stmt) : Run :=
  { r with begun := before ++ r.begun }

@[simp] theorem state_after (r : Run) (before : List Stmt) : (r.after before).state = r.state := rfl

@[simp] theorem begun_after (r : Run) (before : List Stmt) :
    (r.after before).begun = before ++ r.begun := rfl

@[simp] theorem error?_after (r : Run) (before : List Stmt) :
    (r.after before).error? = r.error? := rfl

theorem andThen_eq_after {r : Run} (h : r.error? = none) (next : State → Run) :
    r.andThen next = (next r.state).after r.begun :=
  andThen_of_success h next

end Run

theorem Program.run_singleton (s : Stmt) (state : State) :
    Program.run [s] state = s.run state := by
  rw [Program.run_cons]
  cases h : (s.run state).error? with
  | some e => exact Run.andThen_of_error h _
  | none =>
    rw [Run.andThen_of_success h, Program.run_nil, List.append_nil, ← h]

namespace Stmt

variable {s : Stmt} {value condition : Expr} {body : Program} {x : String} {line : Nat}
  {state : State} {v : Value} {e : RuntimeError}

theorem run_of_error (h : s.expr.eval state.store = .error e) :
    s.run state = ⟨state, [s], some e⟩ := by
  cases s <;> simp only [expr] at h <;> simp only [run, h]

theorem run_print (h : value.eval state.store = .ok v) :
    (print value line).run state = ⟨state.print v, [print value line], none⟩ := by
  simp only [run, h]

theorem run_assign (h : value.eval state.store = .ok v) :
    (assign x value line).run state = ⟨state.assign x v, [assign x value line], none⟩ := by
  simp only [run, h]

theorem run_cond_of_false (h : condition.eval state.store = .ok v) (ht : v.isTruthy = false) :
    (cond condition body line).run state = ⟨state, [cond condition body line], none⟩ := by
  simp only [run, h, ht]
  rfl

theorem run_cond_of_true (h : condition.eval state.store = .ok v) (ht : v.isTruthy = true) :
    (cond condition body line).run state =
      (Program.run body state).after [cond condition body line] := by
  simp only [run, h, ht, if_true]
  rfl

end Stmt

/-- A run of the program from the state. -/
inductive Runs : Program → State → Run → Prop
  | nil (state : State) : Runs [] state ⟨state, [], none⟩
  | stop {s : Stmt} {p : Program} {state : State} {e : RuntimeError} :
    s.expr.eval state.store = .error e → Runs (s :: p) state ⟨state, [s], some e⟩
  | print {value : Expr} {line : Nat} {p : Program} {state : State} {v : Value} {r : Run} :
    value.eval state.store = .ok v → Runs p (state.print v) r →
    Runs (.print value line :: p) state (r.after [.print value line])
  | assign {x : String} {value : Expr} {line : Nat} {p : Program} {state : State} {v : Value}
    {r : Run} : value.eval state.store = .ok v → Runs p (state.assign x v) r →
    Runs (.assign x value line :: p) state (r.after [.assign x value line])
  | skip {condition : Expr} {body p : Program} {line : Nat} {state : State} {v : Value} {r : Run} :
    condition.eval state.store = .ok v → v.isTruthy = false → Runs p state r →
    Runs (.cond condition body line :: p) state (r.after [.cond condition body line])
  | enter {condition : Expr} {body p : Program} {line : Nat} {state : State} {v : Value}
    {inner r : Run} : condition.eval state.store = .ok v → v.isTruthy = true →
    Runs body state inner → inner.error? = none → Runs p inner.state r →
    Runs (.cond condition body line :: p) state (r.after (.cond condition body line :: inner.begun))
  | fail {condition : Expr} {body p : Program} {line : Nat} {state : State} {v : Value}
    {inner : Run} {e : RuntimeError} : condition.eval state.store = .ok v → v.isTruthy = true →
    Runs body state inner → inner.error? = some e →
    Runs (.cond condition body line :: p) state (inner.after [.cond condition body line])

/-- Whatever follows the statement, its run is by the rules if that of the rest is. -/
def Stmt.Ruled (s : Stmt) : Prop :=
  ∀ p : Program, (∀ state, Runs p state (p.run state)) →
    ∀ state, Runs (s :: p) state (Program.run (s :: p) state)

theorem Program.runs_of_forall {p : Program} (h : ∀ s ∈ p, s.Ruled) (state : State) :
    Runs p state (p.run state) := by
  induction p generalizing state with
  | nil =>
    rw [Program.run_nil]
    exact .nil state
  | cons s p ih =>
    have hrest : ∀ next, Runs p next (Program.run p next) :=
      ih fun t ht => h t (List.mem_cons_of_mem s ht)
    exact h s List.mem_cons_self p hrest state

theorem Stmt.ruled (s : Stmt) : s.Ruled := by
  induction s using Stmt.ind with
  | print value line =>
    intro p hp state
    rw [Program.run_cons]
    cases hv : value.eval state.store with
    | error e =>
      rw [run_of_error (s := .print value line) hv]
      exact .stop hv
    | ok v =>
      rw [run_print hv]
      exact .print hv (hp (state.print v))
  | assign name value line =>
    intro p hp state
    rw [Program.run_cons]
    cases hv : value.eval state.store with
    | error e =>
      rw [run_of_error (s := .assign name value line) hv]
      exact .stop hv
    | ok v =>
      rw [run_assign hv]
      exact .assign hv (hp (state.assign name v))
  | cond condition body line ih =>
    intro p hp state
    rw [Program.run_cons]
    cases hv : condition.eval state.store with
    | error e =>
      rw [run_of_error (s := .cond condition body line) hv]
      exact .stop hv
    | ok v =>
      cases ht : v.isTruthy with
      | false =>
        rw [run_cond_of_false hv ht]
        exact .skip hv ht (hp state)
      | true =>
        have hbody : Runs body state (Program.run body state) := Program.runs_of_forall ih state
        rw [run_cond_of_true hv ht]
        -- The rest runs from where the body stopped, and only if the body came to its end.
        cases hinner : (Program.run body state).error? with
        | none =>
          rw [Run.andThen_eq_after (by exact hinner)]
          exact .enter hv ht hbody hinner (hp _)
        | some e =>
          rw [Run.andThen_of_error (by exact hinner)]
          exact .fail hv ht hbody hinner

theorem Program.runs (p : Program) (state : State) : Runs p state (p.run state) :=
  Program.runs_of_forall (fun s _ => s.ruled) state

theorem Runs.run_eq {p : Program} {state : State} {r : Run} (h : Runs p state r) :
    p.run state = r := by
  induction h with
  | nil state => exact Program.run_nil state
  | stop he =>
    rw [Program.run_cons, Stmt.run_of_error he]
    rfl
  | print hv _ ih =>
    rw [Program.run_cons, Stmt.run_print hv, ← ih]
    rfl
  | assign hv _ ih =>
    rw [Program.run_cons, Stmt.run_assign hv, ← ih]
    rfl
  | skip hv ht _ ih =>
    rw [Program.run_cons, Stmt.run_cond_of_false hv ht, ← ih]
    rfl
  | enter hv ht _ hinner _ ihbody ih =>
    rw [Program.run_cons, Stmt.run_cond_of_true hv ht, ihbody, ← ih]
    exact Run.andThen_eq_after (by exact hinner) _
  | fail hv ht _ hinner ihbody =>
    rw [Program.run_cons, Stmt.run_cond_of_true hv ht, ihbody]
    exact Run.andThen_of_error (by exact hinner) _

/-- The rules describe exactly what running does. -/
theorem runs_iff {p : Program} {state : State} {r : Run} : Runs p state r ↔ p.run state = r :=
  ⟨Runs.run_eq, fun h => h ▸ p.runs state⟩

/-- A run that came to its end goes on with another program. -/
theorem Runs.append {p q : Program} {state : State} {first r : Run} (h : Runs p state first)
    (he : first.error? = none) (hq : Runs q first.state r) :
    Runs (p ++ q) state (r.after first.begun) := by
  rw [runs_iff, Program.run_append, h.run_eq, Run.andThen_eq_after he, hq.run_eq]

end Scriptlet
