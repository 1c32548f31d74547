import Scriptlet.Proofs.Grammar.Extension

/-!
What a syntax error asks for. An error that expects a token by name and one about an early end both
tell what the goals want first (`wanted?_of_expectedToken`), and a token of that kind meets the goal
(`exists_advance_of_wanted?`). So the advice helps: with the token in place, the list is a program
or ends too early (`wanted_token_helps`).
-/
namespace Scriptlet.Grammar
open Parse

variable {goals : List Goal} {ts : List Located} {t : Located} {w : Wanted}

/-- The tokens are a program, or they end before they are one. -/
def Viable (ts : List Located) : Prop :=
  (∃ p, program ts = .ok p) ∨ ∃ w, program ts = .error (.unexpectedEnd w)

/-- The token is what was wanted. Any number will do for an expression, no token for a statement. -/
def Answers (t : Token) : Wanted → Prop
  | .token kind => t.kind = kind
  | .expression => ∃ n, t = .number n
  | .statement => False

theorem Mark.eq_token_of_kind {m : Mark} {t : Token} (h : t.kind = m.token.kind) : t = m.token := by
  cases m <;> cases t <;> first | rfl | cases h

theorem eq_rightBrace_of_kind {t : Token} (h : t.kind = .rightBrace) : t = .rightBrace := by
  cases t <;> first | rfl | cases h

/-- What goals can want: a token that stands for itself, or an expression. -/
theorem mem_of_wanted? (h : wanted? goals = some w) :
    w ∈ [.token .assign, .token .leftBrace, .token .rightBrace, .token .rightParen,
      .expression] := by
  induction goals with
  | nil => cases h
  | cons goal goals ih =>
    cases goal with
    | operand | body =>
      cases h
      decide
    | more level => exact ih h
    | mark m =>
      cases h
      cases m <;> decide

/-- Nothing that is wanted goes on with an expression, so goals for more operands are passed
over. -/
theorem operator?_of_answers (h : wanted? goals = some w) (ht : Answers t.token w) :
    t.token.operator? = none := by
  have hmem := mem_of_wanted? h
  simp only [List.mem_cons, List.not_mem_nil, or_false] at hmem
  cases htoken : t.token with
  | op o | compare o =>
    rw [htoken] at ht
    rcases hmem with rfl | rfl | rfl | rfl | rfl <;> simp [Answers, Token.kind] at ht
  | _ => rfl

/-- A token that is wanted meets the goal that wants it. -/
theorem exists_advance_of_wanted? (h : wanted? goals = some w) (ht : Answers t.token w) :
    ∃ next, advance goals t = .ok next := by
  induction goals with
  | nil => cases h
  | cons goal goals ih =>
    cases goal with
    | operand =>
      cases h
      obtain ⟨t, line⟩ := t
      obtain ⟨n, rfl⟩ := ht
      exact ⟨goals, rfl⟩
    | more level =>
      rw [advance, operator?_of_answers h ht]
      exact ih h
    | mark m =>
      cases h
      exact ⟨goals, if_pos (Mark.eq_token_of_kind ht)⟩
    | body =>
      cases h
      exact ⟨goals, if_pos (eq_rightBrace_of_kind ht)⟩

/-- A step that expects another token tells what the goals want. -/
theorem wanted?_of_expectedToken {expected found : Token.Kind} {line : Nat}
    (h : advance goals t = .error (.expectedToken expected found line)) :
    wanted? goals = some (.token expected) ∧ found ≠ expected := by
  obtain heq | ⟨m, hwanted, hne, heq⟩ := advance_error_cases h
  · cases heq
  · cases heq
    exact ⟨hwanted, fun hkind => hne (Mark.eq_token_of_kind hkind)⟩

theorem wanted?_of_finish {goals : List Goal} (h : finish goals = .error (.unexpectedEnd w)) :
    wanted? goals = some w := by
  cases hwanted : wanted? goals with
  | none => cases h.symm.trans (finish_eq_ok_iff.mpr hwanted)
  | some v =>
    cases h.symm.trans (finish_of_wanted? hwanted)
    rfl

theorem viable_of_wanted? (hgoals : ts.foldlM advance [] = .ok goals) (h : wanted? goals = some w)
    (ht : Answers t.token w) : Viable (ts ++ [t]) := by
  obtain ⟨next, hnext⟩ := exists_advance_of_wanted? h ht
  have hrun : (ts ++ [t]).foldlM advance [] = .ok next := by
    rw [List.foldlM_append, hgoals, ← hnext]
    exact bind_pure (advance goals t)
  exact program_cases hrun

/-- The token that an error asks for would have helped. Where one token is expected and another
found, the expected one in its place leaves no error but an early end. Where the tokens end too
early, the error asks for a sign, a brace, a parenthesis or an expression, never for a statement,
and one token of that kind leaves no error but an early end again. -/
theorem wanted_token_helps (ts : List Located) :
    (∀ expected found line, program ts = .error (.expectedToken expected found line) →
      ∃ i t, ts[i]? = some t ∧ t.token.kind = found ∧ t.line = line ∧ found ≠ expected ∧
        ∀ k : Located, k.token.kind = expected → Viable (ts.take i ++ [k])) ∧
    ∀ w, program ts = .error (.unexpectedEnd w) →
      w ∈ [.token .assign, .token .leftBrace, .token .rightBrace, .token .rightParen,
        .expression] ∧
      ∀ k : Located, Answers k.token w → Viable (ts ++ [k]) := by
  constructor
  · intro expected found line h
    obtain hrun | ⟨goals, hrun, hfinish⟩ :=
      Outcome.bind_eq_error_iff.mp (judge_nil_eq_error_iff.mpr h)
    · obtain ⟨before, t, after, goals, rfl, hbefore, ht⟩ := exists_advance_error hrun
      obtain ⟨hkind, hline⟩ := reports_of_advance ht
      obtain ⟨hwanted, hne⟩ := wanted?_of_expectedToken ht
      refine ⟨before.length, t, by simp, hkind.symm, hline.symm, hne, fun k hk => ?_⟩
      rw [List.take_left]
      exact viable_of_wanted? hbefore hwanted hk
    -- After the last token nothing but an early end can be reported.
    · obtain hok | ⟨w, hend⟩ := finish_cases goals
      · cases hok.symm.trans hfinish
      · cases hend.symm.trans hfinish
  · intro w h
    obtain hrun | ⟨goals, hrun, hfinish⟩ :=
      Outcome.bind_eq_error_iff.mp (judge_nil_eq_error_iff.mpr h)
    · obtain ⟨_, t, _, _, _, _, ht⟩ := exists_advance_error hrun
      exact (reports_of_advance ht).elim
    · have hwanted := wanted?_of_finish hfinish
      exact ⟨mem_of_wanted? hwanted, fun k hk => viable_of_wanted? hrun hwanted hk⟩

/-- A brace where a parenthesis has to close: the parenthesis would have made the program complete,
and without either an expression may still go on. -/
theorem wanted_token_helps_of_brace :
    let ts : List Located := [⟨.print, 1⟩, ⟨.leftParen, 1⟩, ⟨.number 1, 1⟩, ⟨.rightBrace, 2⟩]
    program ts = .error (.expectedToken .rightParen .rightBrace 2) ∧
    program (ts.take 3) = .error (.unexpectedEnd (.token .rightParen)) ∧
    Viable (ts.take 3 ++ [⟨.rightParen, 7⟩]) := by
  intro ts
  have hend : program (ts.take 3) = .error (.unexpectedEnd (.token .rightParen)) := by cbv
  exact ⟨by cbv, hend, ((wanted_token_helps (ts.take 3)).2 _ hend).2 ⟨.rightParen, 7⟩ rfl⟩

end Scriptlet.Grammar
