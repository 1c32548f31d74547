import Scriptlet.Eval
import Scriptlet.Proofs.Text.Scalars

/-!
Comparison of values. The values of one type are in a linear order: integers by value, texts by
their scalar values, truth values with `false` first. All five operators read their answers off that
order, so they agree with each other (`comparisons_coherent`). Across types only equality has an
answer.
-/
namespace Scriptlet.Value

section Order

variable {a b c : Value}

theorem order?_eq_some_eq_iff : a.order? b = some .eq ↔ a = b := by
  cases a <;> cases b <;> simp [order?, Text.order_eq_compare, Text.scalars_inj]

theorem order?_swap (a b : Value) : b.order? a = (a.order? b).map Ordering.swap := by
  cases a <;> cases b <;> simp [order?, ← Std.OrientedCmp.eq_swap]

theorem order?_lt_trans (hab : a.order? b = some .lt) (hbc : b.order? c = some .lt) :
    a.order? c = some .lt := by
  -- Values of different types have no order, so all three are of one type.
  match a, b, c with
  | int _, int _, int _ | text _, text _, text _ | bool _, bool _, bool _ =>
    simp only [order?, Option.some.injEq] at *
    exact Std.TransCmp.lt_trans hab hbc

theorem exists_order? (h : a.type = b.type) : ∃ order, a.order? b = some order := by
  rw [← Option.isSome_iff_exists, isSome_order?]
  exact decide_eq_true h

theorem order?_eq_none (h : a.type ≠ b.type) : a.order? b = none := by
  rw [← Option.isNone_iff_eq_none, ← Option.not_isSome, isSome_order?, decide_eq_false h]
  rfl

end Order

section Operators

variable {a b c : Value} {op : Operator} {order : Ordering} {holds : Bool}

theorem relate_of_order? (h : a.order? b = some order) (hop : op.holds? order = some holds) :
    relate op a b = .ok (bool holds) := by
  rw [relate, h]
  dsimp only
  rw [hop, Option.elim_some]

theorem apply_of_order? (h : a.order? b = some order) (hop : op.holds? order = some holds) :
    apply op a b = .ok (bool holds) := by
  have hcomparison : op.isComparison = true := by
    rw [← op.isSome_holds? order, hop, Option.isSome_some]
  rw [apply, if_pos hcomparison, relate_of_order? h hop]

theorem apply_of_type_ne (h : a.type ≠ b.type) (hop : op.isComparison = true) :
    apply op a b = if op = .equal then .ok (bool false) else .error (unsupported op a b) := by
  rw [apply, if_pos hop, relate, order?_eq_none h]

/-- Equality has an answer for any two values, and tells whether they are the same. -/
theorem apply_equal (a b : Value) : apply .equal a b = .ok (bool (decide (a = b))) := by
  by_cases htype : a.type = b.type
  · obtain ⟨order, horder⟩ := exists_order? htype
    have hsame : order.isEq = decide (a = b) := by
      rw [Bool.eq_iff_iff, decide_eq_true_iff, ← order?_eq_some_eq_iff, horder, Option.some.injEq,
        Ordering.isEq_iff_eq_eq]
    rw [apply_of_order? horder rfl, hsame]
  · have hne : a ≠ b := fun h => htype (congrArg type h)
    rw [apply_of_type_ne htype rfl, if_pos rfl, decide_eq_false hne]

theorem apply_equal_eq_true_iff : apply .equal a b = .ok (bool true) ↔ a = b := by
  rw [apply_equal]
  simp

theorem apply_less_eq_true_iff : apply .less a b = .ok (bool true) ↔ a.order? b = some .lt := by
  by_cases htype : a.type = b.type
  · obtain ⟨order, horder⟩ := exists_order? htype
    rw [apply_of_order? horder rfl, horder]
    cases order <;> simp
  · rw [apply_of_type_ne htype rfl, order?_eq_none htype]
    exact iff_of_false nofun nofun

/-- The operators that ask for an order refuse values of different types, and nothing else. -/
theorem apply_eq_error_iff {fault : Fault} (hop : op.isComparison = true) (hne : op ≠ .equal) :
    apply op a b = .error fault ↔ a.type ≠ b.type ∧ fault = unsupported op a b := by
  by_cases htype : a.type = b.type
  · obtain ⟨order, horder⟩ := exists_order? htype
    obtain ⟨holds, hholds⟩ : ∃ holds, op.holds? order = some holds := by
      rw [← Option.isSome_iff_exists, op.isSome_holds?, hop]
    rw [apply_of_order? horder hholds]
    exact iff_of_false nofun fun h => h.1 htype
  · rw [apply_of_type_ne htype hop, if_neg hne]
    constructor
    · intro h
      exact ⟨htype, (Except.error.inj h).symm⟩
    · rintro ⟨-, rfl⟩
      rfl

end Operators

/-- Texts compare by their bytes in lexicographic order, and this is the lexicographic order of
their scalar values: all five operators answer as the scalar values tell. -/
theorem relate_texts_by_scalars (line : Nat) (a b : String) :
    let result (op : Operator) := Expr.located line (relate op (text a) (text b))
    let u := Text.scalars a
    let v := Text.scalars b
    (Text.bytes a < Text.bytes b ↔ u < v) ∧ (Text.bytes a = Text.bytes b ↔ u = v) ∧
    result .less = .ok (bool (decide (u < v))) ∧
    result .greater = .ok (bool (decide (v < u))) ∧
    result .lessEqual = .ok (bool (decide (u < v ∨ u = v))) ∧
    result .greaterEqual = .ok (bool (decide (v < u ∨ u = v))) ∧
    result .equal = .ok (bool (decide (u = v))) := by
  intro result u v
  have horder : (text a).order? (text b) = some (compare u v) :=
    congrArg some (Text.order_eq_compare a b)
  have hbytes : compare (Text.bytes a) (Text.bytes b) = compare u v := Text.order_eq_compare a b
  have hlt : u < v ↔ compare u v = .lt := Text.compare_eq_lt_iff.symm
  have hgt : v < u ↔ compare u v = .gt := by
    rw [Std.OrientedCmp.gt_iff_lt, Text.compare_eq_lt_iff]
  have heq : u = v ↔ compare u v = .eq := Std.compare_eq_iff_eq.symm
  have hanswer : ∀ op holds, op.holds? (compare u v) = some holds →
      result op = .ok (bool holds) := by
    intro op holds hholds
    exact Expr.located_eq_ok_iff.mpr (relate_of_order? horder hholds)
  refine ⟨?_, ?_, hanswer _ _ ?_, hanswer _ _ ?_, hanswer _ _ ?_, hanswer _ _ ?_, hanswer _ _ ?_⟩
  · rw [hlt, ← hbytes, Text.compare_eq_lt_iff]
  · rw [heq, ← hbytes, Std.compare_eq_iff_eq]
  all_goals
    simp only [Operator.holds?, hlt, hgt, heq]
    cases compare u v <;> rfl

/-- Equality always has an answer, tells whether two values are the same, and is an equivalence. The
other comparisons fail just on values of different types, with an error that tells the types. Of two
values of one type the first is less than the second, equal to it or greater, and only one of these.
`<=` and `>=` are the negations of `>` and `<`, `<` is `>` with its operands exchanged, and `<` is
transitive. -/
theorem comparisons_coherent (line : Nat) (a b c : Value) :
    let eval (op : Operator) (left right : Value) := Expr.located line (apply op left right)
    eval .equal a b = .ok (bool (decide (a = b))) ∧
    Equivalence (fun left right => eval .equal left right = .ok (bool true)) ∧
    (∀ op ∈ [Operator.less, .greater, .lessEqual, .greaterEqual], ∀ e,
      eval op a b = .error e ↔ a.type ≠ b.type ∧ e = ⟨.operands a.type op b.type, line⟩) ∧
    (a.type = b.type → ∃ less equal greater,
      eval .less a b = .ok (bool less) ∧ eval .equal a b = .ok (bool equal) ∧
      eval .greater a b = .ok (bool greater) ∧ [less, equal, greater].count true = 1 ∧
      eval .lessEqual a b = .ok (bool !greater) ∧ eval .greaterEqual a b = .ok (bool !less) ∧
      eval .greater b a = .ok (bool less)) ∧
    (eval .less a b = .ok (bool true) → eval .less b c = .ok (bool true) →
      eval .less a c = .ok (bool true)) := by
  intro eval
  refine ⟨Expr.located_eq_ok_iff.mpr (apply_equal a b), ?_, ?_, ?_, ?_⟩
  · have hsame : ∀ x y, eval .equal x y = .ok (bool true) ↔ x = y := fun x y =>
      Expr.located_eq_ok_iff.trans apply_equal_eq_true_iff
    simp only [hsame]
    exact ⟨fun _ => rfl, Eq.symm, Eq.trans⟩
  · intro op hop e
    have hordering : ∀ op ∈ [Operator.less, .greater, .lessEqual, .greaterEqual],
        op.isComparison = true ∧ op ≠ .equal := by decide
    obtain ⟨hcomparison, hne⟩ := hordering op hop
    rw [Expr.located_eq_error_iff, apply_eq_error_iff hcomparison hne, and_assoc]
    obtain ⟨fault, errorLine⟩ := e
    rw [RuntimeError.mk.injEq]
    rfl
  · intro htype
    obtain ⟨order, horder⟩ := exists_order? htype
    have hswapped : b.order? a = some order.swap := by
      rw [order?_swap, horder, Option.map_some]
    have hle : Operator.holds? .lessEqual order = some !order.isGT := by cases order <;> rfl
    have hge : Operator.holds? .greaterEqual order = some !order.isLT := by cases order <;> rfl
    have hgt : Operator.holds? .greater order.swap = some order.isLT := by cases order <;> rfl
    have hone : [order.isLT, order.isEq, order.isGT].count true = 1 := by cases order <;> rfl
    simp only [eval, Expr.located_eq_ok_iff]
    exact ⟨order.isLT, order.isEq, order.isGT, apply_of_order? horder rfl,
      apply_of_order? horder rfl, apply_of_order? horder rfl, hone, apply_of_order? horder hle,
      apply_of_order? horder hge, apply_of_order? hswapped hgt⟩
  · simp only [eval, Expr.located_eq_ok_iff, apply_less_eq_true_iff]
    exact order?_lt_trans

/-- A text comes after its beginnings and before a text with a larger character, and it has no order
with an integer. -/
theorem comparisons_coherent_of_texts :
    let eval (op : Operator) (left right : Value) := Expr.located 3 (apply op left right)
    eval .less (text "a") (text "ab") = .ok (bool true) ∧
    eval .less (text "ab") (text "b") = .ok (bool true) ∧
    eval .less (text "a") (text "b") = .ok (bool true) ∧
    eval .greater (text "ab") (text "a") = .ok (bool true) ∧
    eval .lessEqual (text "a") (int 1) = .error ⟨.operands .text .lessEqual .integer, 3⟩ := by
  intro eval
  have hless : eval .less (text "a") (text "ab") = .ok (bool true) := by rfl
  have hnext : eval .less (text "ab") (text "b") = .ok (bool true) := by rfl
  obtain ⟨-, -, -, htexts, htrans⟩ := comparisons_coherent 3 (text "a") (text "ab") (text "b")
  obtain ⟨less, equal, greater, hab, -, -, -, -, -, hba⟩ := htexts rfl
  obtain ⟨-, -, herror, -, -⟩ := comparisons_coherent 3 (text "a") (int 1) (int 1)
  have htrue : less = true := by
    cases hab.symm.trans hless
    rfl
  refine ⟨hless, hnext, htrans hless hnext, htrue ▸ hba, ?_⟩
  exact (herror .lessEqual (by decide) _).mpr ⟨by decide, rfl⟩

end Scriptlet.Value
