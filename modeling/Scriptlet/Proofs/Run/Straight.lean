import Scriptlet.Proofs.Run.Errors

/-!
The straight-line program of a run: the `print` and assignment statements that it began, in order.
An `if` opens no scope and a failure takes nothing back, so running these statements alone from the
same state has the same effects (`Runs.straight`), and fails only where one of them did.
-/
namespace Scriptlet

namespace Run

/-- The statements of the run that change the state themselves. -/
def simple (r : Run) : Program :=
  r.begun.filter Stmt.isSimple

/-- The error of the run, unless it arose in the condition of an `if`. -/
def simpleError? (r : Run) : Option RuntimeError :=
  if r.begun.getLast?.any Stmt.isSimple then r.error? else none

/-- The run without its conditions. -/
def straight (r : Run) : Run :=
  ⟨r.state, r.simple, r.simpleError?⟩

theorem simpleError?_of_success {r : Run} (h : r.error? = none) : r.simpleError? = none := by
  simp [simpleError?, h]

theorem simpleError?_of_last {r : Run} {front : List Stmt} {s : Stmt}
    (h : r.begun = front ++ [s]) : r.simpleError? = if s.isSimple then r.error? else none := by
  simp [simpleError?, h]

end Run

/-- What was begun before a run does not hide the statement that it stopped at. -/
theorem Runs.straight_after {p : Program} {state : State} {r : Run} (h : Runs p state r)
    (before : List Stmt) :
    (r.after before).straight = r.straight.after (before.filter Stmt.isSimple) := by
  have herror : (r.after before).simpleError? = r.simpleError? := by
    cases he : r.error? with
    | none => rw [Run.simpleError?_of_success he, Run.simpleError?_of_success (by exact he)]
    | some e =>
      obtain ⟨front, s, hbegun, -⟩ := h.stoppedBy he
      have hlast : (r.after before).begun = (before ++ front) ++ [s] := by
        rw [Run.begun_after, hbegun, List.append_assoc]
      rw [Run.simpleError?_of_last hbegun, Run.simpleError?_of_last hlast, Run.error?_after]
  unfold Run.straight
  rw [herror, Run.simple, Run.begun_after, List.filter_append]
  rfl

theorem Runs.straight {p : Program} {state : State} {r : Run} (h : Runs p state r) :
    Runs r.simple state r.straight := by
  induction h with
  | nil state => exact .nil state
  | @stop s p state e he =>
    cases s with
    | print value line => exact .stop he
    | assign x value line => exact .stop he
    | cond condition body line => exact .nil state
  | print hv hr ih =>
    rw [hr.straight_after]
    exact .print hv ih
  | assign hv hr ih =>
    rw [hr.straight_after]
    exact .assign hv ih
  | skip _ _ hr ih =>
    rw [hr.straight_after]
    exact ih
  | @enter condition body p line state v inner r _ _ hbody hinner hr ihbody ih =>
    -- The body came to its end, so its statements alone do, and what follows the `if` goes on
    -- there.
    have happend := ihbody.append (Run.simpleError?_of_success hinner) ih
    rw [hr.straight_after]
    have hsimple : (r.after (.cond condition body line :: inner.begun)).simple =
        inner.simple ++ r.simple := by
      rw [Run.simple, Run.begun_after, List.filter_append]
      rfl
    rw [hsimple]
    exact happend
  | fail _ _ hbody _ ihbody =>
    rw [hbody.straight_after]
    exact ihbody

/-- A run has the effects of the `print` and assignment statements it began, run one after the other
from the same state. It began those it goes through step by step and, where it fails, the one it
stops at. The simple ones succeed if the run does, fail with it if it stops at one of them, which is
then the last, and succeed if it stops in the condition of an `if`. -/
theorem Program.run_eq_straight_line (p : Program) (state : State) :
    let r := p.run state
    let flat := Program.run r.simple state
    flat.state = r.state ∧ flat.begun = r.simple ∧
    (∃ trail rest, Trail (p, state) trail (rest, r.state) ∧ r.Leaves rest ∧
      r.begun = trail.map Prod.fst ++ rest.head?.toList) ∧
    match r.error? with
    | none => flat.error? = none
    | some e => ∃ front s, r.begun = front ++ [s] ∧ s.expr.eval r.state.store = .error e ∧
      if s.isSimple then r.simple = front.filter Stmt.isSimple ++ [s] ∧ flat.error? = some e
      else flat.error? = none := by
  intro r flat
  have hrun : Runs p state r := p.runs state
  have hflat : flat = r.straight := hrun.straight.run_eq
  rw [hflat]
  refine ⟨rfl, rfl, hrun.exists_trail, ?_⟩
  cases he : r.error? with
  | none => exact Run.simpleError?_of_success he
  | some e =>
    obtain ⟨front, s, hbegun, hs⟩ := hrun.stoppedBy he
    have herror : r.straight.error? = if s.isSimple then some e else none := by
      rw [← he]
      exact Run.simpleError?_of_last hbegun
    refine ⟨front, s, hbegun, hs, ?_⟩
    rw [herror]
    by_cases hsimple : s.isSimple
    · rw [if_pos hsimple, if_pos hsimple, Run.simple, hbegun, List.filter_append]
      simp [hsimple]
    · rw [if_neg hsimple, if_neg hsimple]

end Scriptlet
