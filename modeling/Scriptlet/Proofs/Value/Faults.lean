import Scriptlet.Proofs.Outcome
import Scriptlet.Proofs.Word.FloorDiv
import Scriptlet.Value.Operation

/-!
The faults of single operations. `Operator.takes` is the table of the operand types that each
operator accepts, and operands are refused for their types exactly where the table says so. Every
fault tells something of the operator it arose at (`Fault.Blames`), and none is the use of an
operator as one of the other family.
-/
namespace Scriptlet

/-- The types of operands that an operator takes. Arithmetic is on integers, `+` also joins texts,
values of one type have an order, and any two values are equal or not. -/
def Operator.takes : Operator → ValueType → ValueType → Bool
  | add, .integer, .integer | add, .text, .text => true
  | sub, .integer, .integer | mul, .integer, .integer | div, .integer, .integer => true
  | less, left, right | greater, left, right => left = right
  | lessEqual, left, right | greaterEqual, left, right => left = right
  | equal, _, _ => true
  | _, _, _ => false

/-- What a fault tells of the operator it arose at. -/
inductive Fault.Blames : Fault → Operator → Prop
  | divisionByZero : Blames .divisionByZero .div
  | overflow {op : Operator} : op.isComparison = false → Blames .overflow op
  | operands {op : Operator} {left right : ValueType} :
    op.takes left right = false → Blames (.operands left op right) op
  | operand {type : ValueType} : type ≠ .integer → Blames (.operand type) .sub

theorem Word.fault_of_checked {i : Int} {fault : Fault} (h : checked i = .error fault) :
    fault = .overflow := by
  unfold checked at h
  cases hi : ofInt? i with
  | some n =>
    rw [hi] at h
    cases h
  | none =>
    rw [hi] at h
    exact (Except.error.inj h).symm

namespace Value

variable {op : Operator} {a b : Value} {m n : Int64} {fault : Fault}

theorem blames_of_arithmetic (hop : op.isComparison = false)
    (h : arithmetic op m n = .error fault) : fault.Blames op := by
  have hchecked : ∀ i, Word.checked i = .error fault → fault.Blames op := by
    intro i hi
    rw [Word.fault_of_checked hi]
    exact .overflow hop
  cases op with
  | add | sub | mul => exact hchecked _ h
  | div =>
    rw [arithmetic, Word.floorDiv_eq] at h
    split at h
    · cases h
      exact .divisionByZero
    · exact hchecked _ h
  | less | greater | lessEqual | greaterEqual | equal => cases hop

/-- Operands are refused for their types exactly where the table does not take them. -/
theorem apply_eq_unsupported_iff :
    apply op a b = .error (unsupported op a b) ↔ op.takes a.type b.type = false := by
  -- Two integers are never refused by an arithmetic operator, though the result may be.
  have hint : ∀ m n, op.isComparison = false →
      (arithmetic op m n).map int ≠ .error (unsupported op (int m) (int n)) := by
    intro m n hop h
    cases blames_of_arithmetic hop (Outcome.map_eq_error_iff.mp h) with
    | operands htakes => cases op <;> cases htakes
  cases op with
  | add | sub | mul | div =>
    cases a with
    | int m =>
      cases b with
      | int n => exact iff_of_false (hint m n rfl) Bool.noConfusion
      | text t | bool y => exact iff_of_true rfl rfl
    | text s => cases b <;> simp [apply, calculate, Operator.isComparison, Operator.takes, type]
    | bool x => cases b <;> exact iff_of_true rfl rfl
  | less | greater | lessEqual | greaterEqual | equal =>
    cases a <;> cases b <;>
      simp [apply, relate, order?, Operator.isComparison, Operator.takes, Operator.holds?, type]

theorem fault_of_relate (hop : op.isComparison = true) (h : relate op a b = .error fault) :
    fault = unsupported op a b := by
  unfold relate at h
  cases horder : a.order? b with
  | some order =>
    obtain ⟨holds, hholds⟩ : ∃ holds, op.holds? order = some holds := by
      rw [← Option.isSome_iff_exists, op.isSome_holds?, hop]
    simp [horder, hholds] at h
  | none =>
    rw [horder] at h
    dsimp only at h
    split at h
    · cases h
    · exact (Except.error.inj h).symm

/-- Every fault of an operation tells of its operator. -/
theorem blames_of_apply (h : apply op a b = .error fault) : fault.Blames op := by
  have hrefused : fault = unsupported op a b → fault.Blames op := by
    rintro rfl
    exact .operands (apply_eq_unsupported_iff.mp h)
  unfold apply at h
  cases hop : op.isComparison with
  | true =>
    rw [hop, if_pos rfl] at h
    exact hrefused (fault_of_relate hop h)
  | false =>
    rw [hop, if_neg Bool.false_ne_true] at h
    unfold calculate at h
    split at h
    · exact blames_of_arithmetic hop (Outcome.map_eq_error_iff.mp h)
    · split at h
      · cases h
      · exact hrefused (Except.error.inj h).symm
    · exact hrefused (Except.error.inj h).symm

/-- A negation is written as the sign of a difference. -/
theorem blames_of_negate (h : a.negate = .error fault) : fault.Blames .sub := by
  cases a with
  | int n =>
    rw [Word.fault_of_checked (Outcome.map_eq_error_iff.mp h)]
    exact .overflow rfl
  | text s =>
    cases h
    exact .operand nofun
  | bool x =>
    cases h
    exact .operand nofun

end Value

end Scriptlet
