import Scriptlet.Proofs.Grammar.Expressions

/-!
Reading token by token. Where the readers call one another, here a list of goals is kept, the next
one first, and every token is judged by the goals alone. `judge_nil_eq` says that this accepts what
reading accepts and fails with the same errors.
-/
namespace Scriptlet.Grammar
open Parse

/-- The tokens that a phrase asks for by name. -/
inductive Mark where
  | assign | leftBrace | rightParen
  deriving DecidableEq

def Mark.token : Mark → Token
  | assign => .assign
  | leftBrace => .leftBrace
  | rightParen => .rightParen

/-- What is still to be read: an operand, more operands of a level for as long as its operators
follow, a token, or statements and a closing brace. -/
inductive Goal where
  | operand
  | more (level : Level)
  | mark (m : Mark)
  | body
  deriving DecidableEq

def Level.joins (level : Level) (op : Operator) : Bool :=
  level.operators.contains op

/-- What an operator of the level asks for. Nothing compares the result of a comparison. -/
def Level.continued : Level → List Goal
  | comparison => [.operand, .more .product, .more .sum]
  | sum => [.operand, .more .product, .more .sum]
  | product => [.operand, .more .product]
  | signed | primary => [.operand]

def expressionGoals : List Goal :=
  [.operand, .more .product, .more .sum, .more .comparison]

/-- What the first token of a statement asks for. -/
def opening (t : Located) : Except ParseError (List Goal) :=
  match t.token with
  | .print => .ok expressionGoals
  | .cond => .ok (expressionGoals ++ [.mark .leftBrace, .body])
  | .name _ => .ok (.mark .assign :: expressionGoals)
  | _ => .error (.unexpectedToken t.token.kind t.line)

/-- The goals after one more token. With no goal left a new statement starts. -/
def advance : List Goal → Located → Except ParseError (List Goal)
  | [], t => opening t
  | .operand :: goals, t =>
    match t.token with
    | .op .sub => .ok (.operand :: goals)
    | .leftParen => .ok (expressionGoals ++ .mark .rightParen :: goals)
    | _ =>
      if (atom? t).isSome then .ok goals else .error (.unexpectedToken t.token.kind t.line)
  | .more level :: goals, t =>
    if t.token.operator?.any level.joins then .ok (level.continued ++ goals) else advance goals t
  | .mark m :: goals, t =>
    if t.token = m.token then .ok goals
    else .error (.expectedToken m.token.kind t.token.kind t.line)
  | .body :: goals, t =>
    if t.token = .rightBrace then .ok goals else (opening t).map (· ++ .body :: goals)

/-- The first goal that the end of the tokens leaves open. -/
def wanted? : List Goal → Option Wanted
  | [] => none
  | .operand :: _ => some .expression
  | .more _ :: goals => wanted? goals
  | .mark m :: _ => some (.token m.token.kind)
  | .body :: _ => some (.token .rightBrace)

def finish (goals : List Goal) : Except ParseError Unit :=
  (wanted? goals).elim (.ok ()) fun w => .error (.unexpectedEnd w)

/-- Whether the tokens meet the goals and then spell statements. -/
def judge (goals : List Goal) (ts : List Located) : Except ParseError Unit :=
  ts.foldlM advance goals >>= finish

variable {goals next : List Goal} {ts rest : List Located} {t : Located}

theorem judge_nil : judge goals [] = finish goals := rfl

theorem judge_cons : judge goals (t :: ts) = advance goals t >>= fun next => judge next ts := by
  simp [judge]

theorem judge_cons_of_ok (h : advance goals t = .ok next) :
    judge goals (t :: ts) = judge next ts := by
  rw [judge_cons, h]
  rfl

theorem judge_cons_of_error {e : ParseError} (h : advance goals t = .error e) :
    judge goals (t :: ts) = .error e := by
  rw [judge_cons, h]
  rfl

theorem judge_mark (m : Mark) (line : Nat) :
    judge (.mark m :: goals) (⟨m.token, line⟩ :: ts) = judge goals ts :=
  judge_cons_of_ok (if_pos rfl)

theorem judge_mark_of_ne (m : Mark) {t : Token} {line : Nat} (h : t ≠ m.token) :
    judge (.mark m :: goals) (⟨t, line⟩ :: ts) =
      .error (.expectedToken m.token.kind t.kind line) :=
  judge_cons_of_error (if_neg h)

/-- A statement of a body asks for what its first token asks for, and then for the rest of the
body. -/
theorem judge_body (h : t.token ≠ .rightBrace) : judge (.body :: goals) (t :: ts) =
    opening t >>= fun first => judge (first ++ .body :: goals) ts := by
  rw [judge_cons, advance, if_neg h]
  cases opening t <;> rfl

theorem joins_product : Level.product.joins = Operator.isMultiplicative := by
  funext op
  cases op <;> rfl

theorem joins_sum : Level.sum.joins = Operator.isAdditive := by
  funext op
  cases op <;> rfl

theorem joins_comparison : Level.comparison.joins = Operator.isComparison := by
  funext op
  cases op <;> rfl

/-- An operator of the level reopens the goal. -/
theorem judge_more_of_opens {level : Level} {op : Operator} (ht : t.token.operator? = some op)
    (hop : level.joins op = true) :
    judge (.more level :: goals) (t :: ts) = judge (level.continued ++ goals) ts :=
  judge_cons_of_ok (by simp [advance, ht, hop])

/-- Anything else passes it over. -/
theorem judge_more_of_not_opens {level : Level} (h : Opens level.joins ts = false) :
    judge (.more level :: goals) ts = judge goals ts := by
  cases ts with
  | nil => rfl
  | cons t ts =>
    rw [judge_cons, judge_cons, advance, if_neg]
    simpa [Opens] using h

/-- How a reply goes on: a success leaves its rest to the goals. -/
def resume {α : Type} {n : Nat} (goals : List Goal) : Reply α n → Except ParseError Unit
  | .done _ rest _ => judge goals rest
  | .fail e _ => .error e

section Resume

variable {α β : Type} {m n : Nat}

@[simp] theorem resume_done {value : α} (h : rest.length < n) :
    resume goals (.done value rest h) = judge goals rest := rfl

@[simp] theorem resume_map {f : α → β} {r : Reply α n} :
    resume goals (r.map f) = resume goals r := by
  cases r <;> rfl

@[simp] theorem resume_weaken {h : m ≤ n} {r : Reply α m} :
    resume goals (r.weaken h) = resume goals r := by
  cases r <;> rfl

/-- A reader that goes on after another adds its own goals to those that follow. -/
theorem resume_andThen {r : Reply α m} {wanted : List Goal}
    {f : α → (rest : List Located) → rest.length < m → Reply β n}
    (h : ∀ a rest fewer, resume goals (f a rest fewer) = judge wanted rest) :
    resume goals (r.andThen f) = resume wanted r := by
  cases r with
  | done a rest fewer => exact h a rest fewer
  | fail e rest => rfl

end Resume

/-- Operands read from lists of fewer than `n` tokens meet the goal for an operand. -/
def OperandsBelow (n : Nat) : Prop :=
  ∀ ts : List Located, ts.length < n → ∀ goals,
    resume goals (signed ts) = judge (.operand :: goals) ts

/-- A reader that goes round as long as operators of the level follow. -/
structure Rounds (level : Level) (part : (ts : List Located) → Reply Expr ts.length)
    (loop : Expr → (ts : List Located) → Reply Expr (ts.length + 1)) : Prop where
  opens : ∀ {left : Expr} {t : Token} {line : Nat} {op : Operator} {ts : List Located}
    {goals wanted : List Goal}, t.operator? = some op → level.joins op = true →
    (∀ right after, after.length < ts.length →
      resume goals (loop (.binary left op right line) after) = judge wanted after) →
    resume goals (loop left (⟨t, line⟩ :: ts)) = resume wanted (part ts)
  stops : ∀ {left : Expr} {ts : List Located} {goals : List Goal},
    Opens level.joins ts = false → resume goals (loop left ts) = judge goals ts

theorem Rounds.of_chain {level : Level} {family : Operator → Bool}
    {part : (ts : List Located) → Reply Expr ts.length}
    {loop : Expr → (ts : List Located) → Reply Expr (ts.length + 1)}
    (hlevel : level.joins = family) (h : Chain family part loop) : Rounds level part loop where
  opens := by
    intro left t line op ts goals wanted ht hop hround
    rw [hlevel] at hop
    rw [h.opens line ht hop]
    exact resume_andThen fun right after fewer => by rw [resume_weaken, hround right after fewer]
  stops := by
    intro left ts goals hopen
    rw [hlevel] at hopen
    rw [h.stops hopen, resume_done]

theorem product_rounds : Rounds .product signed productFrom :=
  .of_chain joins_product product_chain

theorem sum_rounds : Rounds .sum product sumFrom :=
  .of_chain joins_sum sum_chain

/-- A loop whose parts meet their goals meets the goal for more of its level. -/
theorem Rounds.resume_loop {level : Level} {part : (ts : List Located) → Reply Expr ts.length}
    {loop : Expr → (ts : List Located) → Reply Expr (ts.length + 1)} (h : Rounds level part loop)
    {n : Nat} (hpart : ∀ ts : List Located, ts.length < n → ∀ goals,
      resume (.more level :: goals) (part ts) = judge (level.continued ++ goals) ts)
    (ts : List Located) (hts : ts.length ≤ n) (left : Expr) (goals : List Goal) :
    resume goals (loop left ts) = judge (.more level :: goals) ts := by
  cases hopen : Opens level.joins ts with
  | false => rw [h.stops hopen, judge_more_of_not_opens hopen]
  | true =>
    obtain ⟨t, line, op, inner, rfl, ht, hop⟩ := opens_eq_true_iff.mp hopen
    have hinner : inner.length < n := hts
    have hround : resume goals (loop left (⟨t, line⟩ :: inner)) =
        resume (.more level :: goals) (part inner) :=
      h.opens ht hop fun right after hafter =>
        Rounds.resume_loop h hpart after (by omega) (.binary left op right line) goals
    rw [hround, hpart inner hinner, judge_more_of_opens ht hop]
termination_by ts.length
decreasing_by simp_all; omega

variable {n : Nat}

theorem resume_product (h : OperandsBelow n) (hts : ts.length < n) (goals : List Goal) :
    resume goals (product ts) = judge (.operand :: .more .product :: goals) ts := by
  rw [product, ← h ts hts]
  refine resume_andThen fun left rest fewer => ?_
  rw [resume_weaken]
  exact product_rounds.resume_loop (fun us hus goals => h us hus _) rest (by omega) left goals

theorem resume_sum (h : OperandsBelow n) (hts : ts.length < n) (goals : List Goal) :
    resume goals (Parse.sum ts) = judge (.operand :: .more .product :: .more .sum :: goals) ts := by
  rw [Parse.sum, ← resume_product h hts]
  refine resume_andThen fun left rest fewer => ?_
  rw [resume_weaken]
  exact sum_rounds.resume_loop (fun us hus goals => resume_product h hus _) rest (by omega) left
    goals

theorem resume_comparisonFrom (h : OperandsBelow n) (hts : ts.length ≤ n) (left : Expr)
    (goals : List Goal) :
    resume goals (comparisonFrom left ts) = judge (.more .comparison :: goals) ts := by
  cases hopen : Opens Operator.isComparison ts with
  | false =>
    rw [comparisonFrom_of_not_opens hopen, resume_done,
      judge_more_of_not_opens (by rw [joins_comparison, hopen])]
  | true =>
    obtain ⟨t, line, op, inner, rfl, ht, hop⟩ := opens_eq_true_iff.mp hopen
    rw [judge_more_of_opens ht (by rw [joins_comparison, hop]), comparisonFrom_of_opens line ht hop,
      resume_weaken, resume_map]
    exact resume_sum h hts goals

theorem resume_comparison (h : OperandsBelow n) (hts : ts.length < n) (goals : List Goal) :
    resume goals (comparison ts) = judge (expressionGoals ++ goals) ts := by
  rw [comparison, expressionGoals, List.cons_append, List.cons_append, List.cons_append,
    ← resume_sum h hts]
  refine resume_andThen fun left rest fewer => ?_
  rw [resume_weaken]
  exact resume_comparisonFrom h (by omega) left goals

theorem resume_primary (h : OperandsBelow ts.length)
    (hsign : ∀ line rest, ts ≠ ⟨.op .sub, line⟩ :: rest) (goals : List Goal) :
    resume goals (primary ts) = judge (.operand :: goals) ts := by
  rw [primary.eq_def]
  split
  · rfl
  · rename_i line rest
    have hadvance : advance (.operand :: goals) ⟨.leftParen, line⟩ =
        .ok (expressionGoals ++ .mark .rightParen :: goals) := rfl
    rw [judge_cons_of_ok hadvance, ← resume_comparison h (by simp)]
    refine resume_andThen fun inner after fewer => ?_
    split
    · rfl
    · exact (judge_mark .rightParen _).symm
    · rename_i hclose
      exact (judge_mark_of_ne .rightParen hclose).symm
  · rename_i t rest hparen
    have hadvance : advance (.operand :: goals) t = if (atom? t).isSome then .ok goals
        else .error (.unexpectedToken t.token.kind t.line) := by
      rw [advance]
      split
      · rename_i ht
        exact absurd (by rw [← ht]) (hsign t.line rest)
      · rename_i ht
        exact absurd (by rw [← ht]) (hparen t.line)
      · rfl
    cases hatom : atom? t with
    | some e =>
      rw [hatom] at hadvance
      exact (judge_cons_of_ok hadvance).symm
    | none =>
      rw [hatom] at hadvance
      exact (judge_cons_of_error hadvance).symm

theorem operandsBelow (n : Nat) : OperandsBelow n := by
  induction n with
  | zero =>
    intro ts hts
    omega
  | succ n ih =>
    intro ts hts goals
    have h : OperandsBelow ts.length := fun us hus => ih us (by omega)
    rw [signed.eq_def]
    split
    · rename_i line rest
      rw [resume_weaken, resume_map, h rest (by simp)]
      exact (judge_cons_of_ok rfl).symm
    · rename_i hsign
      exact resume_primary h hsign goals

theorem resume_expression (ts : List Located) (goals : List Goal) :
    resume goals (expression ts) = judge (expressionGoals ++ goals) ts :=
  resume_comparison (operandsBelow _) (Nat.lt_succ_self _) goals

/-- Blocks read from lists of fewer than `n` tokens meet the goals for a body in braces. -/
def BlocksBelow (n : Nat) : Prop :=
  ∀ ts : List Located, ts.length < n → ∀ goals,
    resume goals (block ts) = judge (.mark .leftBrace :: .body :: goals) ts

theorem resume_statement (h : BlocksBelow ts.length) (hts : ts = t :: rest) (goals : List Goal) :
    resume goals (statement ts) = opening t >>= fun first => judge (first ++ goals) rest := by
  rw [statement.eq_def]
  split
  · cases hts
  · cases hts
    rw [resume_weaken, resume_map, resume_expression]
    rfl
  · cases hts
    refine (resume_andThen fun condition after fewer => ?_).trans (resume_expression rest _)
    rw [resume_weaken, resume_map]
    exact h after (by simp; omega) goals
  · cases hts
    rw [resume_weaken, resume_map, resume_expression]
    exact (judge_mark .assign _).symm
  · rename_i hassign
    cases hts
    exact (judge_mark_of_ne .assign hassign).symm
  · cases hts
    rfl
  · rename_i t line rest hprint hcond hassign hname hlast
    cases hts
    have hopening : opening ⟨t, line⟩ = .error (.unexpectedToken t.kind line) := by
      rw [opening]
      split
      · exact absurd ‹_› hprint
      · exact absurd ‹_› hcond
      · rename_i x ht
        cases rest with
        | nil => exact absurd ht (hlast x rfl)
        | cons u after => exact absurd ht (hname x u.token u.line after rfl)
      · rfl
    rw [hopening]
    rfl

theorem resume_blockFrom (ts : List Located) (h : BlocksBelow ts.length) (goals : List Goal) :
    resume goals (blockFrom ts) = judge (.body :: goals) ts := by
  rw [blockFrom.eq_def]
  split
  · rfl
  · exact (judge_cons_of_ok rfl).symm
  · rename_i hnil hclose
    obtain ⟨t, rest, hts⟩ := List.exists_cons_of_ne_nil hnil
    have hbrace : t.token ≠ .rightBrace := by
      intro ht
      exact hclose t.line rest (by rw [hts, ← ht])
    have hbody : ∀ us : List Located, us.length < ts.length →
        resume goals (blockFrom us) = judge (.body :: goals) us :=
      fun us hus => resume_blockFrom us (fun vs hvs => h vs (by omega)) goals
    subst hts
    rw [judge_body hbrace, ← resume_statement h rfl]
    refine resume_andThen fun first after fewer => ?_
    rw [resume_weaken, resume_map, hbody after fewer]
termination_by ts.length

theorem blocksBelow (n : Nat) : BlocksBelow n := by
  induction n with
  | zero =>
    intro ts hts
    omega
  | succ n ih =>
    intro ts hts goals
    rw [block.eq_def]
    split
    · rfl
    · rename_i line rest
      simp only [List.length_cons] at hts
      rw [resume_weaken, resume_blockFrom rest (fun us hus => ih us (by omega))]
      exact (judge_mark .leftBrace line).symm
    · rename_i hopen
      exact (judge_mark_of_ne .leftBrace hopen).symm

/-- Judging a token list with no goals to start from comes to what reading it as a program does. -/
theorem judge_nil_eq (ts : List Located) : judge [] ts = (program ts).map fun _ => () := by
  rw [program.eq_def]
  split
  · rfl
  · rename_i hnil
    obtain ⟨t, rest, hts⟩ := List.exists_cons_of_ne_nil hnil
    have hread : judge [] ts = resume [] (statement ts) := by
      rw [resume_statement (blocksBelow _) hts, hts, judge_cons]
      simp [advance]
    rw [hread]
    split
    · rename_i first after fewer hs
      rw [hs, resume_done, judge_nil_eq after]
      cases program after <;> rfl
    · rename_i hs
      rw [hs]
      rfl
termination_by ts.length

end Scriptlet.Grammar
