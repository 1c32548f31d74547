import Mathlib.Logic.Relation
import Scriptlet.Proofs.Run.Rules

/-!
Runs statement by statement. A step takes the first of the statements still to run, and the body of
an `if` that is entered goes before what follows the `if`. The states that steps lead to are those a
run comes through: from each of them on runs the rest of it (`Steps.run_eq`), and the one that the
run leaves is among them (`Runs.exists_steps`).
-/
namespace Scriptlet

/-- The first statement goes through. On both sides stand the statements still to run, and the
state. -/
inductive Step : Program × State → Program × State → Prop
  | print {value : Expr} {line : Nat} {p : Program} {state : State} {v : Value} :
    value.eval state.store = .ok v → Step (.print value line :: p, state) (p, state.print v)
  | assign {x : String} {value : Expr} {line : Nat} {p : Program} {state : State} {v : Value} :
    value.eval state.store = .ok v → Step (.assign x value line :: p, state) (p, state.assign x v)
  | skip {condition : Expr} {body p : Program} {line : Nat} {state : State} {v : Value} :
    condition.eval state.store = .ok v → v.isTruthy = false →
    Step (.cond condition body line :: p, state) (p, state)
  | enter {condition : Expr} {body p : Program} {line : Nat} {state : State} {v : Value} :
    condition.eval state.store = .ok v → v.isTruthy = true →
    Step (.cond condition body line :: p, state) (body ++ p, state)

abbrev Steps : Program × State → Program × State → Prop :=
  Relation.ReflTransGen Step

theorem Step.append {c d : Program × State} (h : Step c d) (q : Program) :
    Step (c.1 ++ q, c.2) (d.1 ++ q, d.2) := by
  cases h with
  | print hv => exact .print hv
  | assign hv => exact .assign hv
  | skip hv ht => exact .skip hv ht
  | @enter condition body p line state v hv ht =>
    have henter : Step (.cond condition body line :: (p ++ q), state) (body ++ (p ++ q), state) :=
      .enter hv ht
    rwa [← List.append_assoc] at henter

/-- After a step runs what the run began later. -/
theorem Step.run_eq {c d : Program × State} (h : Step c d) :
    ∃ s, c.1.run c.2 = (d.1.run d.2).after [s] := by
  cases h with
  | @print value line p state v hv =>
    exact ⟨.print value line, (Runs.print hv (p.runs _)).run_eq⟩
  | @assign x value line p state v hv =>
    exact ⟨.assign x value line, (Runs.assign hv (p.runs _)).run_eq⟩
  | @skip condition body p line state v hv ht =>
    exact ⟨.cond condition body line, (Runs.skip hv ht (p.runs _)).run_eq⟩
  | @enter condition body p line state v hv ht =>
    refine ⟨.cond condition body line, ?_⟩
    dsimp only
    rw [Program.run_cons, Stmt.run_cond_of_true hv ht, Program.run_append]
    cases he : (body.run state).error? with
    | none =>
      rw [Run.andThen_eq_after he, Run.andThen_eq_after (by exact he)]
      rfl
    | some e => rw [Run.andThen_of_error he, Run.andThen_of_error (by exact he)]

/-- From a state that steps lead to runs the rest of the run, what was begun on the way left out. -/
theorem Steps.run_eq {c d : Program × State} (h : Steps c d) :
    ∃ before, c.1.run c.2 = (d.1.run d.2).after before := by
  induction h with
  | refl => exact ⟨[], rfl⟩
  | tail _ hstep ih =>
    obtain ⟨before, hbefore⟩ := ih
    obtain ⟨s, hs⟩ := hstep.run_eq
    refine ⟨before ++ [s], ?_⟩
    rw [hbefore, hs, Run.after, Run.begun_after, ← List.append_assoc]
    rfl

/-- What a run leaves to do: nothing, or statements of which the first fails. -/
def Run.Leaves (r : Run) (rest : Program) : Prop :=
  match r.error? with
  | none => rest = []
  | some e => ∃ s p, rest = s :: p ∧ s.expr.eval r.state.store = .error e

theorem Run.leaves_of_success {r : Run} (h : r.error? = none) {rest : Program} :
    r.Leaves rest ↔ rest = [] := by
  simp only [Leaves, h]

theorem Run.leaves_of_error {r : Run} {e : RuntimeError} (h : r.error? = some e) {rest : Program} :
    r.Leaves rest ↔ ∃ s p, rest = s :: p ∧ s.expr.eval r.state.store = .error e := by
  simp only [Leaves, h]

/-- A way from one place to another by steps. It lists the statements that went through, each with
the state it was begun in. -/
inductive Trail : Program × State → List (Stmt × State) → Program × State → Prop
  | nil (c : Program × State) : Trail c [] c
  | cons {s : Stmt} {p : Program} {state : State} {c d : Program × State}
    {trail : List (Stmt × State)} : Step (s :: p, state) c → Trail c trail d →
    Trail (s :: p, state) ((s, state) :: trail) d

namespace Trail

variable {c d : Program × State} {trail : List (Stmt × State)}

theorem steps (h : Trail c trail d) : Steps c d := by
  induction h with
  | nil c => exact .refl
  | cons hstep _ ih => exact .head hstep ih

theorem append (h : Trail c trail d) (q : Program) :
    Trail (c.1 ++ q, c.2) trail (d.1 ++ q, d.2) := by
  induction h with
  | nil c => exact .nil _
  | cons hstep _ ih => exact .cons (hstep.append q) ih

theorem trans {e : Program × State} {more : List (Stmt × State)} (h : Trail c trail d)
    (h' : Trail d more e) : Trail c (trail ++ more) e := by
  induction h with
  | nil c => exact h'
  | cons hstep _ ih => exact .cons hstep (ih h')

end Trail

/-- A trail leads to the state that a run leaves, and no further. The run began the statements on it
and, where it failed, the one that comes next. -/
theorem Runs.exists_trail {p : Program} {state : State} {r : Run} (h : Runs p state r) :
    ∃ trail rest, Trail (p, state) trail (rest, r.state) ∧ r.Leaves rest ∧
      r.begun = trail.map Prod.fst ++ rest.head?.toList := by
  induction h with
  | nil state => exact ⟨[], [], .nil _, rfl, rfl⟩
  | @stop s p state e he => exact ⟨[], s :: p, .nil _, ⟨s, p, rfl, he⟩, rfl⟩
  | print hv _ ih =>
    obtain ⟨trail, rest, htrail, hrest, hbegun⟩ := ih
    exact ⟨_, rest, .cons (.print hv) htrail, hrest, congrArg (_ :: ·) hbegun⟩
  | assign hv _ ih =>
    obtain ⟨trail, rest, htrail, hrest, hbegun⟩ := ih
    exact ⟨_, rest, .cons (.assign hv) htrail, hrest, congrArg (_ :: ·) hbegun⟩
  | skip hv ht _ ih =>
    obtain ⟨trail, rest, htrail, hrest, hbegun⟩ := ih
    exact ⟨_, rest, .cons (.skip hv ht) htrail, hrest, congrArg (_ :: ·) hbegun⟩
  | @enter condition body p line state v inner r hv ht _ hinner _ ihbody ih =>
    obtain ⟨inside, left, hinside, hleft, hbody⟩ := ihbody
    rw [Run.leaves_of_success hinner] at hleft
    subst hleft
    obtain ⟨trail, rest, htrail, hrest, hbegun⟩ := ih
    refine ⟨_, rest, .cons (.enter hv ht) ((hinside.append p).trans htrail), hrest, ?_⟩
    simp [hbody, hbegun]
  | @fail condition body p line state v inner e hv ht _ hinner ihbody =>
    obtain ⟨inside, left, hinside, hleft, hbody⟩ := ihbody
    obtain ⟨s, q, rfl, hs⟩ := (Run.leaves_of_error hinner).mp hleft
    -- What is left of the body stands before what follows the `if`.
    refine ⟨_, s :: q ++ p, .cons (.enter hv ht) (hinside.append p), ?_, ?_⟩
    · exact (Run.leaves_of_error (by exact hinner)).mpr ⟨s, q ++ p, rfl, hs⟩
    · exact congrArg (_ :: ·) hbody

/-- Steps lead to the state that a run leaves, and no further. -/
theorem Runs.exists_steps {p : Program} {state : State} {r : Run} (h : Runs p state r) :
    ∃ rest, Steps (p, state) (rest, r.state) ∧ r.Leaves rest := by
  obtain ⟨trail, rest, htrail, hrest, -⟩ := h.exists_trail
  exact ⟨rest, htrail.steps, hrest⟩

end Scriptlet
