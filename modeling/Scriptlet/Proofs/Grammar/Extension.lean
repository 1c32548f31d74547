import Scriptlet.Proofs.Grammar.Prefixes
import Scriptlet.Proofs.Grammar.Programs

/-!
A program and one more token. Where a program may end, the goals ask for nothing but let operators
follow. A further token is then an operator, which asks for an operand, or the first token of a
statement, which asks for the rest of it, or it has no place there. In none of these cases may a
program end again (`program_fails_on_extra_token`).
-/
namespace Scriptlet.Grammar
open Parse

variable {goals next : List Goal} {ts : List Located} {t : Located} {p : Program}

theorem finish_eq_ok_iff : finish goals = .ok () ↔ wanted? goals = none := by
  unfold finish
  cases wanted? goals with
  | none => exact ⟨fun _ => rfl, fun _ => rfl⟩
  | some w => exact ⟨nofun, nofun⟩

theorem finish_of_wanted? {w : Wanted} (h : wanted? goals = some w) :
    finish goals = .error (.unexpectedEnd w) := by
  rw [finish, h]
  rfl

/-- What a token leaves to ask for, where it came after a complete program. -/
def LeavesOpen (goals : List Goal) : Prop :=
  wanted? goals = some .expression ∨ wanted? goals = some (.token .assign)

/-- The first token of a statement is never all of it. -/
theorem leavesOpen_of_opening (h : opening t = .ok next) : LeavesOpen next := by
  unfold opening at h
  split at h <;> cases h
  · exact .inl rfl
  · exact .inl rfl
  · exact .inr rfl

/-- After a complete program a token that is taken leaves something to ask for. -/
theorem leavesOpen_of_advance (hnone : wanted? goals = none) (h : advance goals t = .ok next) :
    LeavesOpen next := by
  induction goals with
  | nil => exact leavesOpen_of_opening h
  | cons goal goals ih =>
    -- A program may end only where every goal left is one for more operands.
    cases goal with
    | operand | mark m | body => cases hnone
    | more level =>
      rw [advance] at h
      split at h
      · cases h
        cases level <;> exact .inl rfl
      · exact ih hnone h

theorem eq_unexpectedToken_of_advance {e : ParseError} (hnone : wanted? goals = none)
    (h : advance goals t = .error e) : e = .unexpectedToken t.token.kind t.line := by
  obtain heq | ⟨m, hwanted, -, -⟩ := advance_error_cases h
  · exact heq
  · cases hnone.symm.trans hwanted

theorem exists_goals_of_program (h : program ts = .ok p) :
    ∃ goals, ts.foldlM advance [] = .ok goals ∧ wanted? goals = none := by
  have hjudge : judge [] ts = .ok () := judge_nil_eq_ok_iff.mpr ⟨p, h⟩
  obtain ⟨goals, hgoals, hfinish⟩ := Outcome.bind_eq_ok_iff.mp hjudge
  exact ⟨goals, hgoals, finish_eq_ok_iff.mp hfinish⟩

/-- No program is another one and a single token more, whatever the token is and carries. Such a
list is refused at that token, or it ends where an expression or the sign of an assignment has to
follow. -/
theorem program_fails_on_extra_token (h : program ts = .ok p) (t : Located) :
    ∃ e, program (ts ++ [t]) = .error e ∧
      (e = .unexpectedToken t.token.kind t.line ∨ e = .unexpectedEnd .expression ∨
        e = .unexpectedEnd (.token .assign)) := by
  obtain ⟨goals, hgoals, hnone⟩ := exists_goals_of_program h
  simp only [← judge_nil_eq_error_iff, judge_append hgoals]
  cases hstep : advance goals t with
  | error e =>
    exact ⟨e, judge_cons_of_error hstep, .inl (eq_unexpectedToken_of_advance hnone hstep)⟩
  | ok next =>
    rw [judge_cons_of_ok hstep, judge_nil]
    obtain hwanted | hwanted := leavesOpen_of_advance hnone hstep
    · exact ⟨_, finish_of_wanted? hwanted, .inr (.inl rfl)⟩
    · exact ⟨_, finish_of_wanted? hwanted, .inr (.inr rfl)⟩

/-- The result of a comparison is not compared again, whichever kind of token carries the second
operator. -/
theorem program_fails_on_extra_token_of_comparison :
    let ts : List Located := [⟨.print, 1⟩, ⟨.name "x", 1⟩, ⟨.compare .less, 1⟩, ⟨.number 1, 1⟩]
    (∃ p, program ts = .ok p) ∧ ∃ e, program (ts ++ [⟨.op .less, 2⟩]) = .error e := by
  intro ts
  have hleft : Derives .sum [⟨.name "x", 1⟩] (.var "x" 1) :=
    .term (.factor (.operand (.name "x" 1)))
  have hright : Derives .sum [⟨.number 1, 1⟩] (.literal (.int 1) 1) :=
    .term (.factor (.operand (.number 1 1)))
  have hts : program ts = .ok [.print (.binary (.var "x" 1) .less (.literal (.int 1) 1) 1) 1] :=
    program_eq_ok (.cons (.print 1 (.compared 1 hleft (.inr rfl) (by decide) hright)) .nil)
  obtain ⟨e, he, -⟩ := program_fails_on_extra_token hts ⟨.op .less, 2⟩
  exact ⟨⟨_, hts⟩, e, he⟩

end Scriptlet.Grammar
