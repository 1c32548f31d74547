import Scriptlet.Proofs.Grammar.Agenda

/-!
Invalid and incomplete token lists. Judged token by token, a list fails at the first token that no
program has at its place, or it ends with goals left, which some tokens would meet.
`program_error_separates_prefixes` says so of reading.
-/
namespace Scriptlet.Grammar
open Parse

variable {goals next : List Goal} {ts us : List Located} {t : Located} {e : ParseError}

/-- The error is about this token: it tells the token's kind and its line. -/
def Reports : ParseError → Located → Prop
  | .unexpectedToken found line, t | .expectedToken _ found line, t =>
    found = t.token.kind ∧ line = t.line
  | .unexpectedEnd _, _ => False

theorem eq_unexpectedToken_of_opening (h : opening t = .error e) :
    e = .unexpectedToken t.token.kind t.line := by
  unfold opening at h
  split at h <;> cases h
  rfl

/-- One step fails only over the token it is given, and tells its kind and its line. Either the
token starts nothing that may stand there, or a mark has to stand there and the token is another. -/
theorem advance_error_cases (h : advance goals t = .error e) :
    e = .unexpectedToken t.token.kind t.line ∨
    ∃ m : Mark, wanted? goals = some (.token m.token.kind) ∧ t.token ≠ m.token ∧
      e = .expectedToken m.token.kind t.token.kind t.line := by
  induction goals with
  | nil => exact .inl (eq_unexpectedToken_of_opening h)
  | cons goal goals ih =>
    cases goal with
    | operand =>
      simp only [advance] at h
      split at h
      · cases h
      · cases h
      · split at h <;> cases h
        exact .inl rfl
    | more level =>
      simp only [advance] at h
      split at h
      · cases h
      · exact ih h
    | mark m =>
      simp only [advance] at h
      split at h
      · cases h
      · rename_i hne
        cases h
        exact .inr ⟨m, rfl, hne, rfl⟩
    | body =>
      simp only [advance] at h
      split at h
      · cases h
      · exact .inl (eq_unexpectedToken_of_opening (Outcome.map_eq_error_iff.mp h))

theorem reports_of_advance (h : advance goals t = .error e) : Reports e t := by
  obtain rfl | ⟨m, -, -, rfl⟩ := advance_error_cases h <;> exact ⟨rfl, rfl⟩

/-- A run of steps fails at one token, and the tokens before it raise no error. -/
theorem exists_advance_error (h : ts.foldlM advance goals = .error e) :
    ∃ before t after next, ts = before ++ t :: after ∧
      before.foldlM advance goals = .ok next ∧ advance next t = .error e := by
  induction ts generalizing goals with
  | nil => cases h
  | cons t ts ih =>
    rw [List.foldlM_cons] at h
    obtain hstep | ⟨mid, hstep, hrest⟩ := Outcome.bind_eq_error_iff.mp h
    · exact ⟨[], t, ts, goals, rfl, rfl, hstep⟩
    · obtain ⟨before, u, after, next, rfl, hbefore, hu⟩ := ih hrest
      refine ⟨t :: before, u, after, next, rfl, ?_, hu⟩
      rw [List.foldlM_cons, hstep]
      exact hbefore

theorem judge_append (h : ts.foldlM advance goals = .ok next) :
    judge goals (ts ++ us) = judge next us := by
  rw [judge, List.foldlM_append, h]
  rfl

/-- Tokens that meet all goals. -/
def completion : List Goal → List Located
  | [] => []
  | .operand :: goals => ⟨.number 0, 1⟩ :: completion goals
  | .more _ :: goals => completion goals
  | .mark m :: goals => ⟨m.token, 1⟩ :: completion goals
  | .body :: goals => ⟨.rightBrace, 1⟩ :: completion goals

theorem opens_completion (family : Operator → Bool) (goals : List Goal) :
    Opens family (completion goals) = false := by
  induction goals with
  | nil => rfl
  | cons goal goals ih =>
    cases goal with
    | operand | body => rfl
    | more level => exact ih
    | mark m => cases m <;> rfl

theorem judge_completion (goals : List Goal) : judge goals (completion goals) = .ok () := by
  induction goals with
  | nil => rfl
  | cons goal goals ih =>
    cases goal with
    | operand => exact (judge_cons_of_ok rfl).trans ih
    | more level => exact (judge_more_of_not_opens (opens_completion _ goals)).trans ih
    | mark m => exact (judge_mark m 1).trans ih
    | body => exact (judge_cons_of_ok rfl).trans ih

theorem judge_nil_eq_ok_iff : judge [] ts = .ok () ↔ ∃ p, program ts = .ok p := by
  rw [judge_nil_eq, Outcome.map_eq_ok_iff]
  simp

theorem judge_nil_eq_error_iff : judge [] ts = .error e ↔ program ts = .error e := by
  rw [judge_nil_eq, Outcome.map_eq_error_iff]

/-- With goals left or without, the end of the tokens is no error about a token. -/
theorem finish_cases (goals : List Goal) :
    finish goals = .ok () ∨ ∃ w, finish goals = .error (.unexpectedEnd w) := by
  unfold finish
  cases wanted? goals with
  | none => exact .inl rfl
  | some w => exact .inr ⟨w, rfl⟩

theorem program_cases (h : ts.foldlM advance [] = .ok next) :
    (∃ p, program ts = .ok p) ∨ ∃ w, program ts = .error (.unexpectedEnd w) := by
  have hjudge : judge [] (ts ++ []) = finish next := judge_append h
  rw [List.append_nil] at hjudge
  obtain hok | ⟨w, hend⟩ := finish_cases next
  · exact .inl (judge_nil_eq_ok_iff.mp (hjudge.trans hok))
  · exact .inr ⟨w, judge_nil_eq_error_iff.mp (hjudge.trans hend)⟩

/-- An error about a token is raised at that token, whatever follows it. -/
theorem exists_impossible_token (h : program ts = .error e) (hend : ∀ w, e ≠ .unexpectedEnd w) :
    ∃ before t after next, ts = before ++ t :: after ∧ before.foldlM advance [] = .ok next ∧
      Reports e t ∧ ∀ us, program (before ++ t :: us) = .error e := by
  obtain hrun | ⟨goals, hrun, hfinish⟩ :=
    Outcome.bind_eq_error_iff.mp (judge_nil_eq_error_iff.mpr h)
  · obtain ⟨before, t, after, next, hts, hbefore, ht⟩ := exists_advance_error hrun
    refine ⟨before, t, after, next, hts, hbefore, reports_of_advance ht, fun us => ?_⟩
    rw [← judge_nil_eq_error_iff, judge_append hbefore, judge_cons_of_error ht]
  · obtain hok | ⟨w, hw⟩ := finish_cases goals
    · cases hok.symm.trans hfinish
    · cases hw.symm.trans hfinish
      exact absurd rfl (hend w)

theorem exists_completion {w : Wanted} (h : program ts = .error (.unexpectedEnd w)) :
    ∃ us p, program (ts ++ us) = .ok p := by
  obtain hrun | ⟨goals, hrun, -⟩ := Outcome.bind_eq_error_iff.mp (judge_nil_eq_error_iff.mpr h)
  · obtain ⟨_, t, _, _, _, _, ht⟩ := exists_advance_error hrun
    exact (reports_of_advance ht).elim
  · refine ⟨completion goals, judge_nil_eq_ok_iff.mp ?_⟩
    rw [judge_append hrun, judge_completion]

/-- An error that names a token is raised at the first token that cannot stand in any program: the
tokens before it can be a program or the start of one, and nothing after it matters. An end that
comes too early is just that: the tokens are no program, but more of them make one. -/
theorem program_error_separates_prefixes (ts : List Located) :
    (∀ e, program ts = .error e → (∀ w, e ≠ .unexpectedEnd w) →
      ∃ i t, ts[i]? = some t ∧ Reports e t ∧
        ((∃ p, program (ts.take i) = .ok p) ∨
          ∃ w, program (ts.take i) = .error (.unexpectedEnd w)) ∧
        ∀ us, program (ts.take (i + 1) ++ us) = .error e) ∧
    (∀ w, program ts = .error (.unexpectedEnd w) → ∃ us p, program (ts ++ us) = .ok p) ∧
    ((∃ w, program ts = .error (.unexpectedEnd w)) ↔
      (∀ p, program ts ≠ .ok p) ∧ ∃ us p, us ≠ [] ∧ program (ts ++ us) = .ok p) := by
  refine ⟨?_, fun w h => exists_completion h, ?_, ?_⟩
  · intro e h hend
    obtain ⟨before, t, after, next, rfl, hbefore, hreports, hall⟩ := exists_impossible_token h hend
    refine ⟨before.length, t, by simp, hreports, ?_, fun us => ?_⟩
    · rw [List.take_left]
      exact program_cases hbefore
    · have hsplit : before ++ t :: after = (before ++ [t]) ++ after := by simp
      rw [hsplit, List.take_left' (by simp), List.append_assoc]
      exact hall us
  · rintro ⟨w, h⟩
    obtain ⟨us, p, hp⟩ := exists_completion h
    refine ⟨fun q hq => (by cases h.symm.trans hq), us, p, ?_, hp⟩
    rintro rfl
    rw [List.append_nil] at hp
    cases h.symm.trans hp
  · rintro ⟨hno, us, p, -, hp⟩
    cases h : program ts with
    | ok q => exact absurd h (hno q)
    | error e =>
      apply Classical.byContradiction
      intro hend
      have hne : ∀ w, e ≠ .unexpectedEnd w := by
        rintro w rfl
        exact hend ⟨w, rfl⟩
      obtain ⟨before, t, after, next, rfl, -, -, hall⟩ := exists_impossible_token h hne
      have herror := hall (after ++ us)
      rw [List.append_assoc, List.cons_append] at hp
      cases herror.symm.trans hp

end Scriptlet.Grammar
