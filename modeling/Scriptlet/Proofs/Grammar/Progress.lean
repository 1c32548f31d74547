import Scriptlet.Proofs.Grammar.Prefixes
import Scriptlet.Proofs.Grammar.Stream

/-!
What the readers do with their tokens. Reading from a stream ends on every token list, since each
part that is read takes a token and few calls lie between one token and the next. It splits the
tokens into those taken and those left, and the split tells which of them an error is about.
`readers_account_for_tokens` says so of every reader.
-/
namespace Scriptlet.Grammar
open Parse

/-- Where an error comes from, between the tokens taken and those left. -/
inductive Placed : ParseError → List Located → List Located → Prop
  /-- A token was taken and is not what was asked for. -/
  | last {e : ParseError} {t : Located} (before left : List Located) :
    Reports e t → Placed e (before ++ [t]) left
  /-- A token was seen with which no statement starts. -/
  | first (t : Located) (taken after : List Located) : (∀ c s, ¬DerivesStmt (t :: c) s) →
    Placed (.unexpectedToken t.token.kind t.line) taken (t :: after)
  /-- A token was seen behind a name, and the two do not start an assignment. -/
  | second (t : Located) (taken after : List Located) (x : String) (line : Nat) :
    t.token ≠ .assign →
    Placed (.expectedToken .assign t.token.kind t.line) taken (⟨.name x, line⟩ :: t :: after)
  /-- All tokens were taken and more were asked for. -/
  | ended {w : Wanted} (taken : List Located) : w ≠ .token .assign →
    Placed (.unexpectedEnd w) taken []
  /-- A name was seen, with nothing behind it. -/
  | unassigned (taken : List Located) (x : String) (line : Nat) :
    Placed (.unexpectedEnd (.token .assign)) taken [⟨.name x, line⟩]

theorem Placed.append {e : ParseError} {taken left : List Located} (before : List Located)
    (h : Placed e taken left) : Placed e (before ++ taken) left := by
  cases h with
  | last mid left ht =>
    rw [← List.append_assoc]
    exact .last _ left ht
  | first t taken after ht => exact .first t _ after ht
  | second t taken after x line ht => exact .second t _ after x line ht
  | ended taken hw => exact .ended _ hw
  | unassigned taken x line => exact .unassigned _ x line

/-- The reading ends as the reply says, it takes tokens from the front, and its error has a place
among them. -/
structure Follows {α : Type} {n : Nat} (m : Stream.Reading α) (ts : List Located) (r : Reply α n) :
    Prop where
  ends : m.outcome ts = some (r.result, r.rest)
  split : ∃ taken, ts = taken ++ r.rest ∧ ∀ e, r.result = .error e → Placed e taken r.rest

namespace Follows

variable {α β : Type} {k n : Nat} {ts rest : List Located} {e : ParseError}
  {m : Stream.Reading α} {f : α → Stream.Reading β}

theorem done {a : α} (h : ts.length < n) : Follows (pure a) ts (.done a ts h) where
  ends := rfl
  split := ⟨[], rfl, by rintro _ ⟨⟩⟩

theorem fail (taken : List Located) (hm : m.outcome (taken ++ rest) = some (.error e, rest))
    (h : Placed e taken rest) : Follows m (taken ++ rest) (.fail e rest : Reply α n) where
  ends := hm
  split := by
    refine ⟨taken, rfl, ?_⟩
    rintro _ ⟨⟩
    exact h

theorem weaken {r : Reply α k} {hle : k ≤ n} (h : Follows m ts r) :
    Follows m ts (r.weaken hle) := by
  cases r with
  | done a rest fewer => exact ⟨h.ends, h.split⟩
  | fail e rest => exact ⟨h.ends, h.split⟩

theorem map {r : Reply α n} (g : α → β) (h : Follows m ts r) :
    Follows (m >>= fun a => pure (g a)) ts (r.map g) := by
  obtain ⟨taken, hts, hplaced⟩ := h.split
  cases r with
  | done a rest fewer => exact ⟨Stream.outcome_bind_of_ok h.ends, taken, hts, by rintro _ ⟨⟩⟩
  | fail e rest =>
    refine ⟨Stream.outcome_bind_of_error h.ends, taken, hts, ?_⟩
    rintro _ ⟨⟩
    exact hplaced e rfl

/-- A step that takes some tokens, and then a reading of the others. -/
theorem after {a : α} {r : Reply β n} (taken : List Located)
    (hm : m.outcome (taken ++ rest) = some (.ok a, rest)) (h : Follows (f a) rest r) :
    Follows (m >>= f) (taken ++ rest) r where
  ends := (Stream.outcome_bind_of_ok hm).trans h.ends
  split := by
    obtain ⟨more, hrest, hplaced⟩ := h.split
    refine ⟨taken ++ more, ?_, fun e he => (hplaced e he).append taken⟩
    rw [List.append_assoc, ← hrest]

theorem andThen {r : Reply α k} {next : α → (rest : List Located) → rest.length < k → Reply β n}
    (h : Follows m ts r) (hnext : ∀ a rest fewer, Follows (f a) rest (next a rest fewer)) :
    Follows (m >>= f) ts (r.andThen next) := by
  obtain ⟨taken, hts, hplaced⟩ := h.split
  cases r with
  | done a rest fewer =>
    obtain rfl : ts = taken ++ rest := hts
    exact after taken h.ends (hnext a rest fewer)
  | fail e rest =>
    obtain rfl : ts = taken ++ rest := hts
    exact fail taken (Stream.outcome_bind_of_error h.ends) (hplaced e rfl)

end Follows

variable {ts : List Located} {depth : Nat}

/-- A round stops where no operator of the family follows, and otherwise takes it. -/
theorem follows_round {family : Operator → Bool} {read : Stream.Reading Expr}
    {next : Expr → Stream.Reading Expr} {left : Expr} {n : Nat} {r : Reply Expr n}
    (hstops : Opens family ts = false → Follows (pure left) ts r)
    (hopens : ∀ t line op inner, ts = ⟨t, line⟩ :: inner → t.operator? = some op →
      family op = true →
      Follows (read >>= fun right => next (.binary left op right line)) inner r) :
    Follows (Stream.round family read next left) ts r := by
  cases hopen : Opens family ts with
  | false => exact .after [] (Stream.outcome_takeOperator_of_not_opens hopen) (hstops hopen)
  | true =>
    obtain ⟨t, line, op, inner, rfl, ht, hop⟩ := opens_eq_true_iff.mp hopen
    exact .after [⟨t, line⟩] (Stream.outcome_takeOperator_of_opens ht hop)
      (hopens t line op inner rfl ht hop)

theorem follows_chain {family : Operator → Bool} {part : (ts : List Located) → Reply Expr ts.length}
    {loop : Expr → (ts : List Located) → Reply Expr (ts.length + 1)} (h : Chain family part loop)
    {read : Stream.Reading Expr} {again : Expr → Stream.Reading Expr} (left : Expr)
    (hread : ∀ inner : List Located, inner.length < ts.length → Follows read inner (part inner))
    (hagain : ∀ e (after : List Located), after.length < ts.length →
      Follows (again e) after (loop e after)) :
    Follows (Stream.round family read again left) ts (loop left ts) := by
  refine follows_round (fun hopen => ?_) ?_
  · rw [h.stops hopen]
    exact .done _
  · rintro t line op inner rfl ht hop
    rw [h.opens line ht hop]
    refine (hread inner (Nat.lt_succ_self _)).andThen fun right after fewer => ?_
    exact (hagain _ after (Nat.lt_succ_of_lt fewer)).weaken

theorem follows_comparisonFrom {read : Stream.Reading Expr} (left : Expr)
    (hread : ∀ inner : List Located, inner.length < ts.length →
      Follows read inner (Parse.sum inner)) :
    Follows (Stream.round Operator.isComparison read pure left) ts (comparisonFrom left ts) := by
  refine follows_round (fun hopen => ?_) ?_
  · rw [comparisonFrom_of_not_opens hopen]
    exact .done _
  · rintro t line op inner rfl ht hop
    rw [comparisonFrom_of_opens line ht hop]
    have hright := hread inner (Nat.lt_succ_self _)
    exact (hright.map fun right => Expr.binary left op right line).weaken

/-- Calls nested less than `depth` deep are enough for the readers of expressions, on lists so short
that five calls come to each token. -/
structure ReadersFollow (depth : Nat) : Prop where
  primary : ∀ ts : List Located, 5 * ts.length < depth →
    Follows (Stream.primary depth) ts (primary ts)
  signed : ∀ ts : List Located, 5 * ts.length + 1 < depth →
    Follows (Stream.signed depth) ts (signed ts)
  product : ∀ ts : List Located, 5 * ts.length + 2 < depth →
    Follows (Stream.product depth) ts (product ts)
  productFrom : ∀ left (ts : List Located), 5 * ts.length + 2 < depth →
    Follows (Stream.productFrom depth left) ts (productFrom left ts)
  sum : ∀ ts : List Located, 5 * ts.length + 3 < depth →
    Follows (Stream.sum depth) ts (Parse.sum ts)
  sumFrom : ∀ left (ts : List Located), 5 * ts.length + 3 < depth →
    Follows (Stream.sumFrom depth left) ts (sumFrom left ts)
  comparison : ∀ ts : List Located, 5 * ts.length + 4 < depth →
    Follows (Stream.comparison depth) ts (comparison ts)

section Step

variable (h : ReadersFollow depth)
include h

theorem follows_primary (hts : 5 * ts.length ≤ depth) :
    Follows (Stream.primary (depth + 1)) ts (primary ts) := by
  rw [Stream.primary, primary.eq_def]
  split
  · exact .fail [] rfl (.ended [] (by simp))
  · rename_i opening rest
    simp only [List.length_cons] at hts
    refine .after [⟨.leftParen, opening⟩] rfl ?_
    refine (h.comparison rest (by omega)).andThen fun inner after fewer => ?_
    split
    · exact .fail [] (Stream.outcome_bind_of_error Stream.outcome_expect_nil) (.ended [] (by simp))
    · exact .after [_] Stream.outcome_expect (.done _)
    · rename_i hclose
      exact .fail [_] (Stream.outcome_bind_of_error (Stream.outcome_expect_of_ne hclose))
        (.last [] _ ⟨rfl, rfl⟩)
  · rename_i t rest hparen
    obtain ⟨t, line⟩ := t
    cases t with
    | number n | text s | name x => exact .after [_] rfl (.done _)
    | leftParen => exact absurd rfl (hparen line)
    | _ => exact .fail [_] rfl (.last [] rest ⟨rfl, rfl⟩)

theorem follows_signed (hts : 5 * ts.length + 1 ≤ depth) :
    Follows (Stream.signed (depth + 1)) ts (signed ts) := by
  rw [signed.eq_def]
  split
  · rename_i line rest
    simp only [List.length_cons] at hts
    rw [Stream.signed]
    refine .after [] rfl (.after [⟨.op .sub, line⟩] rfl ?_)
    exact ((h.signed rest (by omega)).map fun operand => operand.negate line).weaken
  · rename_i hsign
    have hread := h.primary ts hts
    exact ⟨(Stream.outcome_signed hsign).trans hread.ends, hread.split⟩

theorem follows_product (hts : 5 * ts.length + 2 ≤ depth) :
    Follows (Stream.product (depth + 1)) ts (product ts) := by
  rw [Stream.product, product]
  refine (h.signed ts hts).andThen fun left rest fewer => ?_
  exact (h.productFrom left rest (by omega)).weaken

theorem follows_productFrom (left : Expr) (hts : 5 * ts.length + 2 ≤ depth) :
    Follows (Stream.productFrom (depth + 1) left) ts (productFrom left ts) := by
  rw [Stream.productFrom]
  refine follows_chain product_chain left (fun inner hinner => ?_) (fun e after hafter => ?_)
  · exact h.signed inner (by omega)
  · exact h.productFrom e after (by omega)

theorem follows_sum (hts : 5 * ts.length + 3 ≤ depth) :
    Follows (Stream.sum (depth + 1)) ts (Parse.sum ts) := by
  rw [Stream.sum, Parse.sum]
  refine (h.product ts hts).andThen fun left rest fewer => ?_
  exact (h.sumFrom left rest (by omega)).weaken

theorem follows_sumFrom (left : Expr) (hts : 5 * ts.length + 3 ≤ depth) :
    Follows (Stream.sumFrom (depth + 1) left) ts (sumFrom left ts) := by
  rw [Stream.sumFrom]
  refine follows_chain sum_chain left (fun inner hinner => ?_) (fun e after hafter => ?_)
  · exact h.product inner (by omega)
  · exact h.sumFrom e after (by omega)

theorem follows_comparison (hts : 5 * ts.length + 4 ≤ depth) :
    Follows (Stream.comparison (depth + 1)) ts (comparison ts) := by
  rw [Stream.comparison, comparison]
  refine (h.sum ts hts).andThen fun left rest fewer => ?_
  exact (follows_comparisonFrom left fun inner hinner => h.sum inner (by omega)).weaken

end Step

theorem readersFollow (depth : Nat) : ReadersFollow depth := by
  -- All readers at once, one call deeper at a time: where no token is taken, the offset goes down.
  induction depth with
  | zero => constructor <;> simp
  | succ depth ih =>
    exact {
      primary := fun ts hts => follows_primary ih (Nat.le_of_lt_succ hts)
      signed := fun ts hts => follows_signed ih (Nat.le_of_lt_succ hts)
      product := fun ts hts => follows_product ih (Nat.le_of_lt_succ hts)
      productFrom := fun left ts hts => follows_productFrom ih left (Nat.le_of_lt_succ hts)
      sum := fun ts hts => follows_sum ih (Nat.le_of_lt_succ hts)
      sumFrom := fun left ts hts => follows_sumFrom ih left (Nat.le_of_lt_succ hts)
      comparison := fun ts hts => follows_comparison ih (Nat.le_of_lt_succ hts) }

theorem follows_reader (level : Level) (hts : 5 * ts.length + 4 < depth) :
    Follows (Stream.reader level depth) ts (reader level ts) := by
  have h := readersFollow depth
  cases level with
  | comparison => exact h.comparison ts hts
  | sum => exact h.sum ts (by omega)
  | product => exact h.product ts (by omega)
  | signed => exact h.signed ts (by omega)
  | primary => exact h.primary ts (by omega)

theorem follows_expression (hts : 5 * ts.length + 4 < depth) :
    Follows (Stream.expression depth) ts (expression ts) :=
  follows_reader .comparison hts

/-- Calls nested less than `depth` deep are enough for the readers of statements. -/
structure StatementsFollow (depth : Nat) : Prop where
  statement : ∀ ts : List Located, 5 * ts.length < depth →
    Follows (Stream.statement depth) ts (statement ts)
  block : ∀ ts : List Located, 5 * ts.length < depth → Follows (Stream.block depth) ts (block ts)
  blockFrom : ∀ ts : List Located, 5 * ts.length + 1 < depth →
    Follows (Stream.blockFrom depth) ts (blockFrom ts)

section Step

variable (h : StatementsFollow depth)
include h

theorem follows_statement (hts : 5 * ts.length ≤ depth) :
    Follows (Stream.statement (depth + 1)) ts (statement ts) := by
  have hexpr : ∀ rest : List Located, rest.length < ts.length →
      Follows (Stream.expression depth) rest (expression rest) :=
    fun rest hrest => follows_expression (by omega)
  rw [Stream.statement, statement.eq_def]
  -- A look at the stream is a step that takes nothing, hence the empty lists.
  split
  · exact .fail [] rfl (.ended [] (by simp))
  · rename_i line rest
    refine .after [] rfl (.after [⟨.print, line⟩] rfl ?_)
    exact ((hexpr rest (by simp)).map fun e => Stmt.print e line).weaken
  · rename_i line rest
    simp only [List.length_cons] at hts
    refine .after [] rfl (.after [⟨.cond, line⟩] rfl ?_)
    refine (hexpr rest (by simp)).andThen fun condition after fewer => ?_
    exact ((h.block after (by omega)).map fun body => Stmt.cond condition body line).weaken
  · rename_i x line sign rest
    refine .after [] rfl (.after [] rfl ?_)
    refine .after [⟨.name x, line⟩] rfl (.after [⟨.assign, sign⟩] rfl ?_)
    have hrest := hexpr rest (Nat.lt_succ_of_lt (Nat.lt_succ_self _))
    exact (hrest.map fun e => Stmt.assign x e line).weaken
  · rename_i x line t found rest hassign
    cases t with
    | assign => exact absurd rfl hassign
    | _ => exact .fail [] rfl (.second ⟨_, found⟩ [] rest x line hassign)
  · rename_i x line
    exact .fail [] rfl (.unassigned [] x line)
  · rename_i t line rest hprint hcond _ hname hlast
    -- A name is dealt with above, whether a token follows it or not.
    have hother : ∀ x, t ≠ .name x := by
      rintro x rfl
      cases rest with
      | nil => exact hlast x rfl rfl
      | cons u after => exact hname x u.token u.line after rfl rfl
    have hstart : ∀ c s, ¬DerivesStmt (⟨t, line⟩ :: c) s := by
      intro c s hs
      cases hs with
      | print => exact hprint rfl
      | cond => exact hcond rfl
      | assign x => exact hother x rfl
    cases t with
    | print => exact absurd rfl hprint
    | cond => exact absurd rfl hcond
    | name x => exact absurd rfl (hother x)
    | _ => exact .fail [] rfl (.first ⟨_, line⟩ [] rest hstart)

theorem follows_block (hts : 5 * ts.length ≤ depth) :
    Follows (Stream.block (depth + 1)) ts (block ts) := by
  rw [Stream.block, block.eq_def]
  split
  · exact .fail [] (Stream.outcome_bind_of_error Stream.outcome_expect_nil) (.ended [] (by simp))
  · rename_i line rest
    simp only [List.length_cons] at hts
    exact .after [⟨.leftBrace, line⟩] Stream.outcome_expect (h.blockFrom rest (by omega)).weaken
  · rename_i hopen
    exact .fail [_] (Stream.outcome_bind_of_error (Stream.outcome_expect_of_ne hopen))
      (.last [] _ ⟨rfl, rfl⟩)

theorem follows_blockFrom (hts : 5 * ts.length + 1 ≤ depth) :
    Follows (Stream.blockFrom (depth + 1)) ts (blockFrom ts) := by
  rw [Stream.blockFrom, blockFrom.eq_def]
  split
  · exact .fail [] rfl (.ended [] (by simp))
  · rename_i line rest
    exact .after [] rfl (.after [⟨.rightBrace, line⟩] rfl (.done _))
  · rename_i hnil hclose
    refine .after [] rfl ?_
    split
    · rename_i heq
      exact absurd (List.head?_eq_none_iff.mp heq) hnil
    · rename_i line heq
      obtain ⟨rest, hts⟩ := List.head?_eq_some_iff.mp heq
      exact absurd hts (hclose line rest)
    · refine (h.statement ts hts).andThen fun first rest fewer => ?_
      exact ((h.blockFrom rest (by omega)).map fun others => first :: others).weaken

end Step

theorem statementsFollow (depth : Nat) : StatementsFollow depth := by
  induction depth with
  | zero => constructor <;> simp
  | succ depth ih =>
    exact {
      statement := fun ts hts => follows_statement ih (Nat.le_of_lt_succ hts)
      block := fun ts hts => follows_block ih (Nat.le_of_lt_succ hts)
      blockFrom := fun ts hts => follows_blockFrom ih (Nat.le_of_lt_succ hts) }

/-- Reading a program goes from statement to statement, and it succeeds with no token left. -/
theorem exists_follows_program (ts : List Located) : ∃ r : Reply Program (ts.length + 1),
    r.result = program ts ∧ (∀ p, program ts = .ok p → r.rest = []) ∧
    ∀ depth, 5 * ts.length < depth → Follows (Stream.program (depth + 1)) ts r := by
  rw [program.eq_def]
  split
  · exact ⟨.done [] [] (Nat.lt_succ_self _), rfl, fun _ _ => rfl,
      fun _ _ => .after [] rfl (.done _)⟩
  · rename_i hnil
    obtain ⟨t, inner, hcons⟩ := List.exists_cons_of_ne_nil hnil
    have hpeek : Stream.peek.outcome ts = some (.ok (some t), ts) := by
      rw [hcons]
      rfl
    have hfirst := fun depth => (statementsFollow depth).statement ts
    split
    · rename_i first mid fewer hs
      rw [hs] at hfirst
      obtain ⟨r, hresult, hrest, hr⟩ := exists_follows_program mid
      refine ⟨(r.map (first :: ·)).weaken (by omega), ?_, ?_, ?_⟩
      · rw [Reply.result_weaken, Reply.result_map, hresult]
      · intro p hp
        obtain ⟨others, hothers, -⟩ := Outcome.map_eq_ok_iff.mp hp
        rw [Reply.rest_weaken, Reply.rest_map, hrest others hothers]
      · intro depth hdepth
        obtain ⟨taken, hsplit, -⟩ := (hfirst depth hdepth).split
        obtain rfl : ts = taken ++ mid := hsplit
        obtain ⟨depth, rfl⟩ := Nat.exists_eq_add_one_of_ne_zero (Nat.ne_zero_of_lt hdepth)
        refine .after [] hpeek (.after taken (hfirst (depth + 1) hdepth).ends ?_)
        exact ((hr depth (by omega)).map fun others => first :: others).weaken
    · rename_i e rest hs
      rw [hs] at hfirst
      refine ⟨.fail e rest, rfl, by rintro _ ⟨⟩, fun depth hdepth => .after [] hpeek ?_⟩
      have hfailed := hfirst depth hdepth
      obtain ⟨taken, hsplit, hplaced⟩ := hfailed.split
      obtain rfl : ts = taken ++ rest := hsplit
      exact .fail taken (Stream.outcome_bind_of_error hfailed.ends) (hplaced e rfl)
termination_by ts.length

/-- What a reader does with its tokens. The reading ends, and calls nest no deeper on the way than
five for each token and five more. The tokens left are a suffix of those given, shorter on success,
and on failure the split into tokens taken and tokens left gives the error its place. -/
structure Accounts {α : Type} {n : Nat} (m : Nat → Stream.Reading α) (ts : List Located)
    (r : Reply α n) : Prop where
  ends : ∀ depth, 5 * (ts.length + 1) ≤ depth → (m depth).outcome ts = some (r.result, r.rest)
  progress : ∃ taken, ts = taken ++ r.rest ∧ (∀ a, r.result = .ok a → taken ≠ []) ∧
    ∀ e, r.result = .error e → Placed e taken r.rest

theorem accounts_of_follows {α : Type} {m : Nat → Stream.Reading α} {r : Reply α ts.length}
    (h : ∀ depth, 5 * ts.length + 4 < depth → Follows (m depth) ts r) : Accounts m ts r := by
  obtain ⟨taken, hts, hplaced⟩ := (h _ (Nat.lt_succ_self _)).split
  refine ⟨fun depth hdepth => (h depth (by omega)).ends, taken, hts, ?_, hplaced⟩
  rintro a ha rfl
  have hlt := Reply.length_rest_lt ha
  rw [List.nil_append] at hts
  rw [← hts] at hlt
  exact Nat.lt_irrefl _ hlt

/-- Every reader accounts for its tokens. It ends, loops and nested calls and all, since calls nest
no deeper than the tokens allow. What it leaves is a suffix of what it was given, shorter on
success. An error is about the last token taken, about the first one left, with which no statement
starts, or about the one behind a name that is left too because no `=` follows it; at an early end
nothing is left, but for a lone name when `=` is missing. The loop of a program ends likewise, on
success with nothing left. -/
theorem readers_account_for_tokens (ts : List Located) :
    (∀ level, Accounts (Stream.reader level) ts (reader level ts)) ∧
    Accounts Stream.expression ts (expression ts) ∧
    Accounts Stream.statement ts (statement ts) ∧
    Accounts Stream.block ts (block ts) ∧
    ∃ taken rest, ts = taken ++ rest ∧
      (∀ depth, 5 * (ts.length + 1) ≤ depth →
        (Stream.program depth).outcome ts = some (program ts, rest)) ∧
      (∀ p, program ts = .ok p → rest = []) ∧ ∀ e, program ts = .error e → Placed e taken rest := by
  refine ⟨fun level => accounts_of_follows fun depth hdepth => follows_reader level hdepth,
    accounts_of_follows fun depth hdepth => follows_expression hdepth,
    accounts_of_follows fun depth hdepth => (statementsFollow depth).statement ts (by omega),
    accounts_of_follows fun depth hdepth => (statementsFollow depth).block ts (by omega), ?_⟩
  obtain ⟨r, hresult, hrest, hr⟩ := exists_follows_program ts
  obtain ⟨taken, hts, hplaced⟩ := (hr _ (Nat.lt_succ_self _)).split
  rw [hresult] at hplaced
  refine ⟨taken, r.rest, hts, fun depth hdepth => ?_, hrest, hplaced⟩
  obtain ⟨depth, rfl⟩ : ∃ d, depth = d + 1 := ⟨depth - 1, by omega⟩
  rw [(hr depth (by omega)).ends, hresult]

end Scriptlet.Grammar
