import Scriptlet.Proofs.Ideal.Basic
import Scriptlet.Proofs.Tree.Nodes
import Scriptlet.Proofs.Word.FloorDiv

/-!
Evaluation on words against the ideal one. `arithmetic_eq_bind` is the only place where words and
integers meet: word arithmetic is the exact result, refused when no word holds it. From there
`eval_tracks` follows: an expression has the ideal outcome, or an overflow is reported for a node
whose exact value no word holds.
-/
namespace Scriptlet

/-- No word holds the integer. -/
def Outside (i : Int) : Prop :=
  i < Int64.minValue.toInt ∨ Int64.maxValue.toInt < i

theorem Word.checked_eq_error {i : Int} (h : Outside i) : Word.checked i = .error .overflow := by
  simp [Word.checked, Word.ofInt?_eq_none_iff.mpr h]

theorem Word.checked_cases (i : Int) :
    (Outside i ∧ Word.checked i = .error .overflow) ∨
    ∃ n, n.toInt = i ∧ Word.checked i = .ok n := by
  cases h : Word.ofInt? i with
  | none =>
    have hi := Word.ofInt?_eq_none_iff.mp h
    exact .inl ⟨hi, Word.checked_eq_error hi⟩
  | some n =>
    have hn := Word.ofInt?_eq_some_iff.mp h
    exact .inr ⟨n, hn, Word.checked_eq_ok_iff.mpr hn⟩

namespace Value

theorem ideal_bool (b : Bool) : (bool b).ideal = .bool b := rfl

@[simp] theorem type_ideal (v : Value) : v.ideal.type = v.type := by
  cases v <;> rfl

@[simp] theorem isTruthy_ideal (v : Value) : v.ideal.isTruthy = v.isTruthy := by
  cases v with
  | int n =>
    rw [Bool.eq_iff_iff]
    simp [ideal, Ideal.Value.isTruthy, isTruthy, Word.toInt_eq_zero_iff]
  | text s => rfl
  | bool b => rfl

@[simp] theorem display_ideal (v : Value) : v.ideal.display = v.display := by
  cases v with
  | int n => rfl
  | text s => rfl
  | bool b => cases b <;> rfl

theorem compare_toInt (a b : Int64) : compare a.toInt b.toInt = compare a b := by
  simp only [compare, compareOfLessAndEq, Int64.lt_iff_toInt_lt, Int64.toInt_inj]

@[simp] theorem order?_ideal (a b : Value) : a.ideal.order? b.ideal = a.order? b := by
  cases a <;> cases b <;> simp [ideal, Ideal.Value.order?, order?, compare_toInt]

/-- Word arithmetic is the exact result, refused when no word holds it. -/
theorem arithmetic_eq_bind (op : Operator) (a b : Int64) :
    arithmetic op a b = (Ideal.Value.arithmetic op a.toInt b.toInt).bind Word.checked := by
  cases op with
  | div =>
    simp only [arithmetic, Ideal.Value.arithmetic, Word.floorDiv_eq, Word.toInt_eq_zero_iff]
    split <;> rfl
  | _ => rfl

theorem arithmetic_ne_overflow (op : Operator) (i j : Int) :
    Ideal.Value.arithmetic op i j ≠ .error .overflow := by
  unfold Ideal.Value.arithmetic
  split <;> try simp
  split <;> simp

theorem calculate_cases (op : Operator) (a b : Value) :
    (calculate op a b ≠ .error .overflow ∧
      Ideal.Value.calculate op a.ideal b.ideal = (calculate op a b).map ideal) ∨
    (calculate op a b = .error .overflow ∧
      ∃ i, Ideal.Value.calculate op a.ideal b.ideal = .ok (.int i) ∧ Outside i) := by
  cases a with
  | int m =>
    cases b with
    | int n =>
      simp only [calculate, ideal, Ideal.Value.calculate, arithmetic_eq_bind]
      cases hexact : Ideal.Value.arithmetic op m.toInt n.toInt with
      | error fault =>
        have hfault : fault ≠ .overflow := fun h => arithmetic_ne_overflow op _ _ (h ▸ hexact)
        exact .inl ⟨by simpa [Except.bind, Except.map] using hfault, rfl⟩
      | ok i =>
        rcases Word.checked_cases i with ⟨hi, hchecked⟩ | ⟨k, rfl, hchecked⟩
        · exact .inr ⟨by simp [Except.bind, Except.map, hchecked], i, rfl, hi⟩
        · exact .inl ⟨by simp [Except.bind, Except.map, hchecked],
            by simp [Except.bind, Except.map, hchecked, ideal]⟩
    | text t => exact .inl ⟨by simp [calculate, unsupported], rfl⟩
    | bool y => exact .inl ⟨by simp [calculate, unsupported], rfl⟩
  | text s =>
    cases b with
    | int n => exact .inl ⟨by simp [calculate, unsupported], rfl⟩
    | text t =>
      left
      by_cases hop : op = .add
      · simp [calculate, ideal, Ideal.Value.calculate, hop, Except.map]
      · simp [calculate, ideal, Ideal.Value.calculate, hop, Except.map, unsupported, type]
    | bool y => exact .inl ⟨by simp [calculate, unsupported], rfl⟩
  | bool x => cases b <;> exact .inl ⟨by simp [calculate, unsupported], rfl⟩

/-- Comparison never leaves the range. -/
theorem relate_ideal (op : Operator) (a b : Value) : relate op a b ≠ .error .overflow ∧
    Ideal.Value.relate op a.ideal b.ideal = (relate op a b).map ideal := by
  unfold relate Ideal.Value.relate
  rw [order?_ideal]
  cases a.order? b with
  | none => by_cases hop : op = .equal <;> simp [hop, Except.map, unsupported, ideal_bool]
  | some order => cases h : op.holds? order <;> simp [h, Except.map, ideal_bool]

/-- An operator has the ideal outcome, or it is arithmetic and no word holds its exact value. -/
theorem apply_cases (op : Operator) (a b : Value) :
    (apply op a b ≠ .error .overflow ∧
      Ideal.Value.apply op a.ideal b.ideal = (apply op a b).map ideal) ∨
    (apply op a b = .error .overflow ∧ op.isComparison = false ∧
      ∃ i, Ideal.Value.apply op a.ideal b.ideal = .ok (.int i) ∧ Outside i) := by
  unfold apply Ideal.Value.apply
  cases hop : op.isComparison with
  | true => exact .inl (relate_ideal op a b)
  | false =>
    rcases calculate_cases op a b with h | h
    · exact .inl h
    · exact .inr ⟨h.1, rfl, h.2⟩

theorem negate_cases (v : Value) :
    (v.negate ≠ .error .overflow ∧ v.ideal.negate = v.negate.map ideal) ∨
    (v.negate = .error .overflow ∧ ∃ i, v.ideal.negate = .ok (.int i) ∧ Outside i) := by
  cases v with
  | int n =>
    have hneg : negate (int n) = (Word.checked (-n.toInt)).map int := rfl
    rcases Word.checked_cases (-n.toInt) with ⟨hi, hchecked⟩ | ⟨k, hk, hchecked⟩
    · exact .inr ⟨by simp [hneg, hchecked, Except.map], _, rfl, hi⟩
    · exact .inl ⟨by simp [hneg, hchecked, Except.map],
        by simp [hneg, hchecked, Except.map, ideal, Ideal.Value.negate, hk]⟩
  | text s => exact .inl ⟨by simp [negate], rfl⟩
  | bool b => exact .inl ⟨by simp [negate], rfl⟩

end Value

/-- A negation or arithmetic node on the line, whose operands have their ideal values and whose own
ideal value no word holds. -/
structure Escapes (store : Store) (line : Nat) (node : Expr) : Prop where
  isArithmetic : node.isArithmetic = true
  line_eq : node.line = line
  operands : ∀ x ∈ node.operands, ∃ v, x.eval store = .ok v ∧
    Ideal.eval store.ideal x = .ok v.ideal
  outside : ∃ i, Ideal.eval store.ideal node = .ok (.int i) ∧ Outside i

/-- The ideal outcome, which is no overflow, or an overflow reported for one of the nodes. -/
def Tracks (store : Store) (nodes : List Expr) (r : Except RuntimeError Value)
    (i : Except RuntimeError Ideal.Value) : Prop :=
  ((∀ line, r ≠ .error ⟨.overflow, line⟩) ∧ i = r.map Value.ideal) ∨
  ∃ line, r = .error ⟨.overflow, line⟩ ∧ ∃ node ∈ nodes, Escapes store line node

namespace Tracks

variable {store : Store} {nodes more : List Expr}

theorem ok (v : Value) : Tracks store nodes (.ok v) (.ok v.ideal) :=
  .inl ⟨by simp, rfl⟩

/-- Evaluation goes on from the same value in both languages. -/
theorem bind {r : Except RuntimeError Value} {i : Except RuntimeError Ideal.Value}
    {f : Value → Except RuntimeError Value} {g : Ideal.Value → Except RuntimeError Ideal.Value}
    (h : Tracks store nodes r i) (hsub : nodes ⊆ more)
    (hnext : ∀ v, r = .ok v → i = .ok v.ideal → Tracks store more (f v) (g v.ideal)) :
    Tracks store more (r >>= f) (i >>= g) := by
  rcases h with ⟨hne, rfl⟩ | ⟨line, rfl, node, hmem, hesc⟩
  · cases r with
    | ok v => exact hnext v rfl rfl
    | error e => exact .inl ⟨hne, rfl⟩
  · exact .inr ⟨line, rfl, node, hsub hmem, hesc⟩

/-- An operation has its ideal outcome on its line, or its node is the one that escapes. -/
theorem located {r : Except Fault Value} {i : Except Fault Ideal.Value} {line : Nat}
    (h : (r ≠ .error .overflow ∧ i = r.map Value.ideal) ∨
      (r = .error .overflow ∧ ∃ node ∈ nodes, Escapes store line node)) :
    Tracks store nodes (Expr.located line r) (Expr.located line i) := by
  rcases h with ⟨hne, rfl⟩ | ⟨rfl, hesc⟩
  · cases r with
    | ok v => exact ok v
    | error fault =>
      refine .inl ⟨?_, rfl⟩
      intro place h
      cases h
      exact hne rfl
  · exact .inr ⟨line, rfl, hesc⟩

end Tracks

@[simp] theorem Store.read_ideal (s : Store) (x : String) : s.ideal.read x = (s.read x).ideal := by
  unfold Store.ideal Ideal.Store.read Store.read
  cases h : s.get? x with
  | none => simp [h, Value.ideal]
  | some v => simp [h]

/-- An expression has its ideal outcome, or one of its nodes is reported to leave the range. -/
theorem eval_tracks (store : Store) (e : Expr) :
    Tracks store e.nodes (e.eval store) (Ideal.eval store.ideal e) := by
  induction e with
  | literal value line => cases value <;> exact .ok _
  | var name line =>
    rw [Expr.eval, Ideal.eval, Store.read_ideal]
    exact .ok _
  | negate operand line ih =>
    refine ih.bind (List.subset_cons_self _ _) fun v hv hideal => .located ?_
    rcases v.negate_cases with h | ⟨hneg, i, hi, hout⟩
    · exact .inl h
    · refine .inr ⟨hneg, _, Expr.self_mem_nodes _, rfl, rfl, ?_, i, ?_, hout⟩
      · simpa [Expr.operands] using ⟨v, hv, hideal⟩
      · rw [Ideal.eval, hideal]
        change Expr.located line v.ideal.negate = _
        rw [hi]
        rfl
  | binary left op right line ihl ihr =>
    refine ihl.bind (by simp [Expr.nodes]) fun a ha hla => ?_
    refine ihr.bind (by simp [Expr.nodes]) fun b hb hrb => .located ?_
    rcases Value.apply_cases op a b with h | ⟨happly, hop, i, hi, hout⟩
    · exact .inl h
    · refine .inr ⟨happly, _, Expr.self_mem_nodes _, by simp [Expr.isArithmetic, hop], rfl, ?_, i,
        ?_, hout⟩
      · simpa [Expr.operands] using ⟨⟨a, ha, hla⟩, ⟨b, hb, hrb⟩⟩
      · rw [Ideal.eval, hla, hrb]
        change Expr.located line (Ideal.Value.apply op a.ideal b.ideal) = _
        rw [hi]
        rfl

end Scriptlet
