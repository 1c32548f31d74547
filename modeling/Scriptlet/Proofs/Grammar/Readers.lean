import Scriptlet.Parse.Stmt
import Scriptlet.Proofs.Outcome

/-!
What each reader of a phrase can return, one equivalence a reader. Later proofs use these and never
open the readers.
-/
namespace Scriptlet

namespace Reply

variable {α β : Type} {m n : Nat}

/-- The reply is a success with this value and these tokens left. -/
def Yields (r : Reply α n) (value : α) (rest : List Located) : Prop :=
  r.result = .ok value ∧ r.rest = rest

@[simp] theorem yields_done {a value : α} {left rest : List Located} (h : left.length < n) :
    (done a left h).Yields value rest ↔ a = value ∧ left = rest := by
  simp [Yields, result, Reply.rest]

@[simp] theorem not_yields_fail {value : α} {e : ParseError} {left rest : List Located} :
    ¬(fail e left : Reply α n).Yields value rest := by
  simp [Yields, result]

@[simp] theorem yields_map {f : α → β} {r : Reply α n} {value : β} {rest : List Located} :
    (r.map f).Yields value rest ↔ ∃ a, r.Yields a rest ∧ f a = value := by
  cases r with
  | done a left h =>
    constructor
    · intro hdone
      exact ⟨a, ⟨rfl, hdone.2⟩, Except.ok.inj hdone.1⟩
    · rintro ⟨b, hdone, rfl⟩
      obtain ⟨rfl, rfl⟩ := (yields_done h).mp hdone
      exact ⟨rfl, rfl⟩
  | fail e left => simp [map]

@[simp] theorem yields_weaken {h : m ≤ n} {r : Reply α m} {value : α} {rest : List Located} :
    (r.weaken h).Yields value rest ↔ r.Yields value rest := by
  simp [Yields]

theorem Yields.length_lt {r : Reply α n} {value : α} {rest : List Located}
    (h : r.Yields value rest) : rest.length < n :=
  h.2 ▸ length_rest_lt h.1

/-- Reading on succeeds through a first success, whose bound is of no consequence. -/
theorem yields_andThen_iff {r : Reply α m} {value : β} {rest : List Located}
    {next : α → (mid : List Located) → mid.length < m → Reply β n}
    {after : α → List Located → Prop}
    (h : ∀ a mid fewer, (next a mid fewer).Yields value rest ↔ after a mid) :
    (r.andThen next).Yields value rest ↔ ∃ a mid, r.Yields a mid ∧ after a mid := by
  cases r with
  | done a left fewer =>
    constructor
    · intro hnext
      exact ⟨a, left, ⟨rfl, rfl⟩, (h a left fewer).mp hnext⟩
    · rintro ⟨b, mid, hdone, hafter⟩
      obtain ⟨rfl, rfl⟩ := (yields_done fewer).mp hdone
      exact (h a left fewer).mpr hafter
  | fail e left => simp [andThen]

end Reply

namespace Parse

variable {ts rest : List Located} {e left : Expr}

/-- The first token, when there is one, stands for an operator of the family. -/
def Opens (family : Operator → Bool) : List Located → Bool
  | [] => false
  | t :: _ => t.token.operator?.any family

theorem opens_eq_true_iff {family : Operator → Bool} : Opens family ts = true ↔
    ∃ t line op inner, ts = ⟨t, line⟩ :: inner ∧ t.operator? = some op ∧ family op = true := by
  cases ts with
  | nil => simp [Opens]
  | cons t after =>
    obtain ⟨t, line⟩ := t
    cases ht : t.operator? <;> simp [Opens, ht]

theorem primary_yields_iff : (primary ts).Yields e rest ↔
    (∃ t, ts = t :: rest ∧ atom? t = some e) ∨
    ∃ opening inner closing, ts = ⟨.leftParen, opening⟩ :: inner ∧
      (comparison inner).Yields e (⟨.rightParen, closing⟩ :: rest) := by
  rw [primary.eq_def]
  split
  · simp
  · rename_i opening inner
    refine (Reply.yields_andThen_iff fun a mid fewer =>
      (?_ : _ ↔ ∃ closing, a = e ∧ mid = ⟨.rightParen, closing⟩ :: rest)).trans ?_
    · split
      · simp
      · simp
      · rename_i t line after hclose
        simp only [Reply.not_yields_fail, false_iff]
        rintro ⟨closing, _, hmid⟩
        cases hmid
        exact hclose rfl
    · constructor
      · rintro ⟨_, _, hinner, closing, rfl, rfl⟩
        exact .inr ⟨opening, inner, closing, rfl, hinner⟩
      · rintro (⟨t, ht, hatom⟩ | ⟨_, _, closing, ht, hinner⟩)
        · cases ht
          simp [atom?] at hatom
        · cases ht
          exact ⟨e, _, hinner, closing, rfl, rfl⟩
  · rename_i t after hparen
    constructor
    · intro hdone
      split at hdone
      · rename_i a hatom
        obtain ⟨rfl, rfl⟩ := (Reply.yields_done _).mp hdone
        exact .inl ⟨t, rfl, hatom⟩
      · simp at hdone
    · rintro (⟨u, hu, hatom⟩ | ⟨opening, inner, _, hu, _⟩)
      · cases hu
        simp [hatom]
      · cases hu
        exact absurd rfl (hparen opening)

theorem signed_yields_iff : (signed ts).Yields e rest ↔
    (∃ line inner operand, ts = ⟨.op .sub, line⟩ :: inner ∧ (signed inner).Yields operand rest ∧
      operand.negate line = e) ∨ (primary ts).Yields e rest := by
  rw [signed.eq_def]
  split
  · rename_i line inner
    have hprimary : ¬(primary (⟨.op .sub, line⟩ :: inner)).Yields e rest := by
      rw [primary_yields_iff]
      rintro (⟨t, ht, hatom⟩ | ⟨_, _, _, ht, _⟩)
      · cases ht
        simp [atom?] at hatom
      · simp at ht
    simp only [Reply.yields_weaken, Reply.yields_map, hprimary, or_false]
    constructor
    · rintro ⟨operand, hinner, rfl⟩
      exact ⟨line, inner, operand, rfl, hinner, rfl⟩
    · rintro ⟨_, _, operand, ht, hinner, rfl⟩
      cases ht
      exact ⟨operand, hinner, rfl⟩
  · rename_i hsign
    constructor
    · exact .inr
    · rintro (⟨line, inner, _, rfl, _⟩ | h)
      · exact absurd rfl (hsign line inner)
      · exact h

theorem product_yields_iff : (product ts).Yields e rest ↔
    ∃ first mid, (signed ts).Yields first mid ∧ (productFrom first mid).Yields e rest := by
  rw [product]
  exact Reply.yields_andThen_iff fun _ _ _ => Reply.yields_weaken

theorem sum_yields_iff : (sum ts).Yields e rest ↔
    ∃ first mid, (product ts).Yields first mid ∧ (sumFrom first mid).Yields e rest := by
  rw [sum]
  exact Reply.yields_andThen_iff fun _ _ _ => Reply.yields_weaken

/-- `loop` joins parts from the left for as long as operators of the family follow. -/
structure Chain (family : Operator → Bool) (part : (ts : List Located) → Reply Expr ts.length)
    (loop : Expr → (ts : List Located) → Reply Expr (ts.length + 1)) : Prop where
  opens : ∀ {left : Expr} {ts : List Located} {t : Token} {op : Operator} (line : Nat),
    t.operator? = some op → family op = true → loop left (⟨t, line⟩ :: ts) =
      (part ts).andThen fun right after fewer =>
        (loop (.binary left op right line) after).weaken
          (Nat.le_succ_of_le (Nat.succ_le_succ (Nat.le_of_lt fewer)))
  stops : ∀ {left : Expr} {ts : List Located}, Opens family ts = false →
    loop left ts = .done left ts (Nat.lt_succ_self _)

theorem product_chain : Chain Operator.isMultiplicative signed productFrom where
  opens := by
    intro left ts t op line ht hop
    rw [productFrom.eq_def]
    simp only [ht, hop, ↓reduceIte]
  stops := by
    intro left ts h
    rw [productFrom.eq_def]
    cases ts with
    | nil => rfl
    | cons t after => cases ht : t.token.operator? <;> simp_all [Opens]

theorem sum_chain : Chain Operator.isAdditive product sumFrom where
  opens := by
    intro left ts t op line ht hop
    rw [sumFrom.eq_def]
    simp only [ht, hop, ↓reduceIte]
  stops := by
    intro left ts h
    rw [sumFrom.eq_def]
    cases ts with
    | nil => rfl
    | cons t after => cases ht : t.token.operator? <;> simp_all [Opens]

theorem comparisonFrom_of_opens {t : Token} {op : Operator} (line : Nat)
    (ht : t.operator? = some op) (hop : op.isComparison = true) :
    comparisonFrom left (⟨t, line⟩ :: ts) =
      ((sum ts).map fun right => .binary left op right line).weaken (Nat.le_add_right _ 2) := by
  rw [comparisonFrom.eq_def]
  simp only [ht, hop, ↓reduceIte]

theorem comparisonFrom_of_not_opens (h : Opens Operator.isComparison ts = false) :
    comparisonFrom left ts = .done left ts (Nat.lt_succ_self _) := by
  rw [comparisonFrom.eq_def]
  cases ts with
  | nil => rfl
  | cons t after => cases ht : t.token.operator? <;> simp_all [Opens]

/-- What a chain of parts yields, round by round. -/
structure Loop (family : Operator → Bool) (part : (ts : List Located) → Reply Expr ts.length)
    (loop : Expr → (ts : List Located) → Reply Expr (ts.length + 1)) : Prop where
  opens : ∀ {left e : Expr} {ts rest : List Located} {t : Token} {op : Operator} (line : Nat),
    t.operator? = some op → family op = true →
    ((loop left (⟨t, line⟩ :: ts)).Yields e rest ↔ ∃ right mid, (part ts).Yields right mid ∧
      (loop (.binary left op right line) mid).Yields e rest)
  stops : ∀ {left e : Expr} {ts rest : List Located}, Opens family ts = false →
    ((loop left ts).Yields e rest ↔ left = e ∧ ts = rest)

theorem Chain.loop {family : Operator → Bool} {part : (ts : List Located) → Reply Expr ts.length}
    {loop : Expr → (ts : List Located) → Reply Expr (ts.length + 1)} (h : Chain family part loop) :
    Loop family part loop where
  opens := by
    intro left e ts rest t op line ht hop
    rw [h.opens line ht hop]
    exact Reply.yields_andThen_iff fun _ _ _ => Reply.yields_weaken
  stops := by
    intro left e ts rest hopen
    rw [h.stops hopen]
    exact Reply.yields_done _

theorem product_loop : Loop Operator.isMultiplicative signed productFrom :=
  product_chain.loop

theorem sum_loop : Loop Operator.isAdditive product sumFrom :=
  sum_chain.loop

/-- What every round of a loop keeps holds when it ends, and it ends where no operator of the
family follows. -/
theorem Loop.invariant {family : Operator → Bool}
    {part : (ts : List Located) → Reply Expr ts.length}
    {loop : Expr → (ts : List Located) → Reply Expr (ts.length + 1)} (h : Loop family part loop)
    {n : Nat} {P : Expr → List Located → Prop}
    (step : ∀ l t line op inner r next, inner.length < n → t.operator? = some op →
      family op = true → P l (⟨t, line⟩ :: inner) → (part inner).Yields r next →
      P (.binary l op r line) next)
    (hts : ts.length ≤ n) (hleft : P left ts) (hy : (loop left ts).Yields e rest) :
    P e rest ∧ Opens family rest = false := by
  induction hk : ts.length using Nat.strongRecOn generalizing left ts with
  | ind k ih =>
    cases hopen : Opens family ts with
    | false =>
      obtain ⟨rfl, rfl⟩ := (h.stops hopen).mp hy
      exact ⟨hleft, hopen⟩
    | true =>
      obtain ⟨t, line, op, inner, rfl, ht, hop⟩ := opens_eq_true_iff.mp hopen
      obtain ⟨right, next, hright, hnext⟩ := (h.opens line ht hop).mp hy
      have hlt := hright.length_lt
      simp only [List.length_cons] at hts hk
      exact ih next.length (by omega) (by omega)
        (step left t line op inner right next (by omega) ht hop hleft hright) hnext rfl

theorem comparison_yields_iff : (comparison ts).Yields e rest ↔
    ∃ first mid, (sum ts).Yields first mid ∧ (comparisonFrom first mid).Yields e rest := by
  rw [comparison]
  exact Reply.yields_andThen_iff fun _ _ _ => Reply.yields_weaken

theorem comparisonFrom_yields_of_opens {t : Token} {op : Operator} (line : Nat)
    (ht : t.operator? = some op) (hop : op.isComparison = true) :
    (comparisonFrom left (⟨t, line⟩ :: ts)).Yields e rest ↔
      ∃ right, (sum ts).Yields right rest ∧ .binary left op right line = e := by
  rw [comparisonFrom_of_opens line ht hop, Reply.yields_weaken, Reply.yields_map]

theorem comparisonFrom_yields_of_not_opens (h : Opens Operator.isComparison ts = false) :
    (comparisonFrom left ts).Yields e rest ↔ left = e ∧ ts = rest := by
  rw [comparisonFrom_of_not_opens h, Reply.yields_done]

theorem statement_yields_iff {s : Stmt} : (statement ts).Yields s rest ↔
    (∃ line inner e, ts = ⟨.print, line⟩ :: inner ∧ (expression inner).Yields e rest ∧
      s = .print e line) ∨
    (∃ line inner e mid body, ts = ⟨.cond, line⟩ :: inner ∧ (expression inner).Yields e mid ∧
      (block mid).Yields body rest ∧ s = .cond e body line) ∨
    ∃ x line sign inner e, ts = ⟨.name x, line⟩ :: ⟨.assign, sign⟩ :: inner ∧
      (expression inner).Yields e rest ∧ s = .assign x e line := by
  rw [statement.eq_def]
  split
  · simp
  · simp [eq_comm, and_assoc]
  · rename_i line inner
    simp only [reduceCtorEq, List.cons.injEq, Located.mk.injEq, false_and, exists_false, or_false,
      false_or, true_and]
    refine (Reply.yields_andThen_iff fun e mid fewer =>
      (?_ : _ ↔ ∃ body, (block mid).Yields body rest ∧ s = .cond e body line)).trans ?_
    · simp [eq_comm]
    · constructor
      · rintro ⟨e, mid, he, body, hbody, rfl⟩
        exact ⟨line, inner, e, mid, body, ⟨rfl, rfl⟩, he, hbody, rfl⟩
      · rintro ⟨_, _, e, mid, body, ⟨rfl, rfl⟩, he, hbody, rfl⟩
        exact ⟨e, mid, he, body, hbody, rfl⟩
  · simp [eq_comm, and_assoc]
  · simp_all
  · simp_all
  · rename_i t line after _ _ hassign _ _
    simp only [Reply.not_yields_fail, false_iff]
    rintro (⟨_, _, _, ht, _⟩ | ⟨_, _, _, _, _, ht, _⟩ | ⟨x, _, sign, inner, _, ht, _⟩) <;>
      simp_all

theorem block_yields_iff {body : Program} : (block ts).Yields body rest ↔
    ∃ line inner, ts = ⟨.leftBrace, line⟩ :: inner ∧ (blockFrom inner).Yields body rest := by
  rw [block.eq_def]
  split
  · simp
  · simp [and_assoc]
  · simp_all

theorem blockFrom_yields_iff {body : Program} : (blockFrom ts).Yields body rest ↔
    (∃ line, ts = ⟨.rightBrace, line⟩ :: rest ∧ body = []) ∨
    ∃ first mid more, (statement ts).Yields first mid ∧ (blockFrom mid).Yields more rest ∧
      body = first :: more := by
  rw [blockFrom.eq_def]
  split
  · simp [statement_yields_iff]
  · simp [statement_yields_iff, eq_comm, and_comm]
  · rename_i hclose
    have hbrace : ¬∃ line, ts = ⟨.rightBrace, line⟩ :: rest ∧ body = [] := by
      rintro ⟨line, rfl, _⟩
      exact hclose line rest rfl
    simp only [hbrace, false_or, exists_and_left]
    refine Reply.yields_andThen_iff fun first mid fewer =>
      (?_ : _ ↔ ∃ more, (blockFrom mid).Yields more rest ∧ body = first :: more)
    simp [eq_comm]

theorem program_eq_ok_iff {p : Program} : program ts = .ok p ↔
    (ts = [] ∧ p = []) ∨
    ∃ first mid more, (statement ts).Yields first mid ∧ program mid = .ok more ∧
      p = first :: more := by
  constructor
  · intro h
    rw [program.eq_def] at h
    split at h
    · exact .inl ⟨rfl, (Except.ok.inj h).symm⟩
    · split at h
      · rename_i first mid _ hs
        obtain ⟨more, hmore, rfl⟩ := Outcome.map_eq_ok_iff.mp h
        exact .inr ⟨first, mid, more, by rw [hs]; exact ⟨rfl, rfl⟩, hmore, rfl⟩
      · cases h
  · rintro (⟨rfl, rfl⟩ | ⟨first, mid, more, hs, hmore, rfl⟩)
    · rw [program]
    · rw [program.eq_def]
      split
      · simp [statement_yields_iff] at hs
      · split
        · rename_i hs'
          rw [hs'] at hs
          obtain ⟨rfl, rfl⟩ := (Reply.yields_done _).mp hs
          rw [hmore]
          rfl
        · rename_i hs'
          rw [hs'] at hs
          exact absurd hs Reply.not_yields_fail

end Parse

end Scriptlet
