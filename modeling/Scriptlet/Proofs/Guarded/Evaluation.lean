import Scriptlet.Proofs.Guarded.Basic
import Scriptlet.Proofs.Word.FloorDiv
import Scriptlet.Run

/-!
Evaluation and running with the partial operations of words and operators. The two operator tables
panic on the other family, division panics where words have no remainder or no predecessor, and
`eval_eq_calm`, `runStmt_eq` and `runProgram_eq` say that no expression, no statement and no program
of any shape gets there.
-/
namespace Scriptlet.Guarded

/-- The remainder of words. It exists when the quotient does. -/
def remainder {ε : Type} (a b : Int64) : Guarded ε Int64 :=
  if b = 0 ∨ (a = Int64.minValue ∧ b = -1) then panic .remainder else calm (.ok (a % b))

def predecessor {ε : Type} (a : Int64) : Guarded ε Int64 :=
  if a = Int64.minValue then panic .predecessor else calm (.ok (a - 1))

/-- The quotient towards zero, when there is one and a word holds it. -/
def quotient? (a b : Int64) : Option Int64 :=
  if b = 0 then none else Word.ofInt? (a.toInt.tdiv b.toInt)

def floorDiv (a b : Int64) : Guarded Fault Int64 :=
  if b = 0 then throw .divisionByZero
  else match quotient? a b with
    | none => throw .overflow
    | some q => do
      let r ← remainder a b
      if r ≠ 0 ∧ (a < 0 ↔ ¬b < 0) then predecessor q else return q

/-- Whether a comparison holds. Arithmetic has no entry in this table. -/
def ordering (op : Operator) (order : Ordering) : Guarded Fault Bool :=
  match op.holds? order with
  | some holds => return holds
  | none => panic .ordering

/-- Arithmetic on two integers. Comparison has no entry in this table. -/
def scalar : Operator → Int64 → Int64 → Guarded Fault Int64
  | .add, a, b => calm (Word.add a b)
  | .sub, a, b => calm (Word.sub a b)
  | .mul, a, b => calm (Word.mul a b)
  | .div, a, b => floorDiv a b
  | .less, _, _ | .greater, _, _ | .lessEqual, _, _ | .greaterEqual, _, _ | .equal, _, _ =>
    panic .scalar

def calculate (op : Operator) : Value → Value → Guarded Fault Value
  | .int a, .int b => .int <$> scalar op a b
  | .text a, .text b =>
    if op = .add then return .text (a ++ b)
    else throw (Value.unsupported op (.text a) (.text b))
  | a, b => throw (Value.unsupported op a b)

def relate (op : Operator) (a b : Value) : Guarded Fault Value :=
  match a.order? b with
  | some order => .bool <$> ordering op order
  | none => if op = .equal then return .bool false else throw (Value.unsupported op a b)

def apply (op : Operator) (a b : Value) : Guarded Fault Value :=
  if op.isComparison then relate op a b else calculate op a b

theorem quotient?_eq {a b : Int64} (hb : b ≠ 0) :
    quotient? a b = if a = Int64.minValue ∧ b = -1 then none else some (a / b) := by
  rw [quotient?, if_neg hb]
  split
  · rename_i h
    obtain ⟨rfl, rfl⟩ := h
    rfl
  · rename_i h
    exact Word.ofInt?_eq_some_iff.mpr (Word.toInt_div_eq_tdiv h)

/-- An inexact quotient is not the least word, so it has a predecessor. -/
theorem predecessor_div {a b : Int64} (hq : ¬(a = Int64.minValue ∧ b = -1)) (hr : a % b ≠ 0) :
    (predecessor (a / b) : Guarded Fault Int64) = calm (.ok (a / b - 1)) := by
  rw [predecessor, if_neg]
  intro hmin
  have hdiv := Word.toInt_div_eq_tdiv hq
  have hsize := Word.two_mul_natAbs_tdiv_le (Word.mod_ne_zero_iff.mp hr)
  have ha := Word.toInt_range a
  have hleast : Int64.minValue.toInt = -9223372036854775808 := by decide
  rw [← hdiv, hmin, hleast] at hsize
  omega

theorem floorDiv_eq_calm (a b : Int64) : floorDiv a b = calm (Word.floorDiv a b) := by
  unfold floorDiv Word.floorDiv
  by_cases hb : b = 0
  · rw [if_pos hb, if_pos hb]
    rfl
  rw [if_neg hb, if_neg hb, quotient?_eq hb]
  by_cases hq : a = Int64.minValue ∧ b = -1
  · rw [if_pos hq, if_pos hq]
    rfl
  have hr : (remainder a b : Guarded Fault Int64) = calm (.ok (a % b)) := by
    rw [remainder, if_neg]
    intro h
    exact h.elim hb hq
  rw [if_neg hq, if_neg hq]
  dsimp only
  rw [hr]
  by_cases hround : a % b ≠ 0 ∧ (a < 0 ↔ ¬b < 0)
  · rw [if_pos hround, ← predecessor_div hq hround.1]
    exact if_pos hround
  · rw [if_neg hround]
    exact if_neg hround

/-- The table of comparisons is used within its family. -/
theorem relate_eq_calm {op : Operator} (hop : op.isComparison = true) (a b : Value) :
    relate op a b = calm (Value.relate op a b) := by
  unfold relate Value.relate
  cases a.order? b with
  | none =>
    dsimp only
    split <;> rfl
  | some order =>
    have hsome := op.isSome_holds? order
    rw [hop, Option.isSome_iff_exists] at hsome
    obtain ⟨holds, hholds⟩ := hsome
    simp only [ordering, hholds]
    rfl

/-- The table of arithmetic is used within its family. -/
theorem scalar_eq_calm {op : Operator} (hop : op.isComparison = false) (a b : Int64) :
    scalar op a b = calm (Value.arithmetic op a b) := by
  cases op with
  | add | sub | mul => rfl
  | div => exact floorDiv_eq_calm a b
  | less | greater | lessEqual | greaterEqual | equal => cases hop

theorem calculate_eq_calm {op : Operator} (hop : op.isComparison = false) (a b : Value) :
    calculate op a b = calm (Value.calculate op a b) := by
  cases a with
  | int m =>
    cases b with
    | int n =>
      rw [calculate, scalar_eq_calm hop, calm_map]
      rfl
    | text t | bool y => rfl
  | text s =>
    cases b with
    | text t =>
      rw [calculate, Value.calculate]
      split <;> rfl
    | int n | bool y => rfl
  | bool x => rfl

theorem apply_eq_calm (op : Operator) (a b : Value) :
    apply op a b = calm (Value.apply op a b) := by
  unfold apply Value.apply
  cases hop : op.isComparison with
  | true => exact relate_eq_calm hop a b
  | false => exact calculate_eq_calm hop a b

/-- Outside its family each table panics. -/
theorem scalar_eq_panic_iff {op : Operator} {a b : Int64} :
    scalar op a b = panic .scalar ↔ op.isComparison = true := by
  cases hop : op.isComparison with
  | false => simp [scalar_eq_calm hop, calm_ne_panic]
  | true =>
    simp only [iff_true]
    cases op with
    | add | sub | mul | div => cases hop
    | less | greater | lessEqual | greaterEqual | equal => rfl

theorem ordering_eq_panic_iff {op : Operator} {order : Ordering} :
    ordering op order = panic .ordering ↔ op.isComparison = false := by
  have hsome := op.isSome_holds? order
  unfold ordering
  cases hholds : op.holds? order with
  | none => simpa [hholds] using hsome.symm
  | some holds =>
    have hop : op.isComparison = true := by simpa [hholds] using hsome.symm
    simp only [hop, reduceCtorEq, iff_false]
    exact calm_ne_panic (.ok holds) .ordering

def eval (store : Store) : Expr → Guarded RuntimeError Value
  | .literal value _ => return value.value
  | .var name _ => return store.read name
  | .negate operand line => do
    let v ← eval store operand
    (calm v.negate).adapt fun fault => ⟨fault, line⟩
  | .binary left op right line => do
    let a ← eval store left
    let b ← eval store right
    (apply op a b).adapt fun fault => ⟨fault, line⟩

theorem eval_eq_calm (store : Store) (e : Expr) : eval store e = calm (e.eval store) := by
  induction e with
  | literal value line => rfl
  | var name line => rfl
  | negate operand line ih =>
    simp only [eval, ih, adapt_calm, calm_bind]
    rfl
  | binary left op right line ihl ihr =>
    simp only [eval, ihl, ihr, apply_eq_calm, adapt_calm, calm_bind]
    rfl

mutual

def runStmt (s : Stmt) (state : State) : Except Panic Run :=
  match s with
  | .print value line => do
    match ← (eval state.store value).run with
    | .ok v => return ⟨state.print v, [.print value line], none⟩
    | .error e => return ⟨state, [.print value line], some e⟩
  | .assign name value line => do
    match ← (eval state.store value).run with
    | .ok v => return ⟨state.assign name v, [.assign name value line], none⟩
    | .error e => return ⟨state, [.assign name value line], some e⟩
  | .cond condition body line => do
    match ← (eval state.store condition).run with
    | .ok v =>
      if v.isTruthy then
        let inner ← runProgram body state
        return { inner with begun := .cond condition body line :: inner.begun }
      else return ⟨state, [.cond condition body line], none⟩
    | .error e => return ⟨state, [.cond condition body line], some e⟩

def runProgram (p : Program) (state : State) : Except Panic Run :=
  match p with
  | [] => return ⟨state, [], none⟩
  | s :: rest => do
    let first ← runStmt s state
    match first.error? with
    | some _ => return first
    | none =>
      let last ← runProgram rest first.state
      return { last with begun := first.begun ++ last.begun }

end

theorem runProgram_eq_of_forall {p : Program}
    (h : ∀ s ∈ p, ∀ state, runStmt s state = .ok (s.run state)) (state : State) :
    runProgram p state = .ok (p.run state) := by
  induction p generalizing state with
  | nil =>
    rw [runProgram, Program.run_nil]
    rfl
  | cons s p ih =>
    have hfirst := h s List.mem_cons_self state
    have hrest := ih fun t ht => h t (List.mem_cons_of_mem s ht)
    rw [runProgram, Program.run_cons, hfirst]
    cases herror : (s.run state).error? with
    | some e =>
      rw [Run.andThen_of_error herror]
      simp only [bind, Except.bind, herror]
      rfl
    | none =>
      rw [Run.andThen_of_success herror]
      simp only [bind, Except.bind, herror, hrest]
      rfl

theorem runStmt_eq (s : Stmt) (state : State) : runStmt s state = .ok (s.run state) := by
  induction s using Stmt.ind generalizing state with
  | print value line =>
    rw [runStmt, Stmt.run, eval_eq_calm]
    cases value.eval state.store <;> rfl
  | assign name value line =>
    rw [runStmt, Stmt.run, eval_eq_calm]
    cases value.eval state.store <;> rfl
  | cond condition body line ih =>
    have hbody := runProgram_eq_of_forall ih state
    rw [runStmt, Stmt.run, eval_eq_calm]
    cases condition.eval state.store with
    | error e => rfl
    | ok v =>
      simp only [run_calm, bind, Except.bind, hbody]
      split <;> rfl

theorem runProgram_eq (p : Program) (state : State) : runProgram p state = .ok (p.run state) :=
  runProgram_eq_of_forall (fun s _ => runStmt_eq s) state

end Scriptlet.Guarded
