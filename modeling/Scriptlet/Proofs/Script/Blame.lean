import Scriptlet.Proofs.Grammar.Origins
import Scriptlet.Proofs.Grammar.Programs
import Scriptlet.Proofs.Run.Errors

/-!
The operator that an error is about. The line of an error goes from a token to a node of the tree
and from there into the message, so `runtime_error_names_operator` finds on that line of the source
an operator which can fail the way the error says.
-/
namespace Scriptlet

theorem Fault.Blames.mem_arithmetic {op : Operator} (h : Fault.overflow.Blames op) :
    op ∈ [Operator.add, .sub, .mul, .div] := by
  cases h with
  | overflow hop =>
    cases op with
    | add | sub | mul | div => decide
    | less | greater | lessEqual | greaterEqual | equal => cases hop

namespace Script
open Token (scan)
open Grammar (Carries Shows)

/-- The error of a run stands at an operator among the tokens that the program was read from. -/
theorem exists_operator_of_error {tokens : List Located} {p : Program} {state : State}
    {e : RuntimeError} (hp : Parse.program tokens = .ok p) (he : (p.run state).error? = some e) :
    ∃ op, Shows tokens op e.line ∧ e.fault.Blames op := by
  obtain ⟨front, s, -, hmem, hs⟩ := Program.exists_stop he
  obtain ⟨node, hnode, op, hop, hline, hblames⟩ := Expr.raises_of_error hs
  obtain ⟨t, inner, hinner, hsub⟩ := (Grammar.derives_of_program hp).holds hmem
  have hshows : Shows inner op node.line := hinner.shows hnode hop
  refine ⟨op, hline ▸ hshows.mono fun u hu => ?_, hblames⟩
  exact hsub.subset (List.mem_cons_of_mem _ hu)

/-- A script that fails while it runs has, on the line of the error, an operator that the error is
about: `/` for a division by zero, an arithmetic one for an overflow, and for refused operands the
one that the message shows between two types it does not take, or the sign before a type that has no
negation. -/
theorem runtime_error_names_operator {source : String} {e : RuntimeError}
    (h : output source = .error (.runtime e)) :
    ∃ tokens t op, scan source = .ok tokens ∧ t ∈ tokens ∧ t.line = e.line ∧
      (t.token = .op op ∨ t.token = .compare op) ∧
      match e.fault with
      | .divisionByZero => op = .div
      | .overflow => op ∈ [Operator.add, .sub, .mul, .div]
      | .operands left used right => used = op ∧ op.takes left right = false ∧
        e.fault.message = s!"Unsupported operand types: {left.label} {op.symbol} {right.label}."
      | .operand type => op = .sub ∧ (type = .text ∨ type = .boolean) ∧
        e.fault.message = s!"Unsupported operand types: -{type.label}."
      | .misapplied _ => False := by
  obtain ⟨tokens, p, hscan, hp, he⟩ := exists_run_of_output h
  obtain ⟨op, ⟨t, ht, hline, hcarries⟩, hblames⟩ := exists_operator_of_error hp he
  refine ⟨tokens, t, op, hscan, ht, hline, hcarries, ?_⟩
  obtain ⟨fault, line⟩ := e
  cases fault with
  | divisionByZero =>
    cases hblames
    rfl
  | overflow => exact hblames.mem_arithmetic
  | operands left used right =>
    cases hblames with
    | operands htakes => exact ⟨rfl, htakes, rfl⟩
  | operand type =>
    cases hblames with
    | operand htype =>
      refine ⟨rfl, ?_, rfl⟩
      cases type with
      | integer => exact absurd rfl htype
      | text => exact .inl rfl
      | boolean => exact .inr rfl
  | misapplied used => cases hblames

/-- The sum stands on three lines, and the error on that of its operator. -/
theorem runtime_error_names_operator_of_sum :
    output "print (1\n+\n\"a\")" = .error (.runtime ⟨.operands .integer .add .text, 2⟩) ∧
    ∃ tokens t, scan "print (1\n+\n\"a\")" = .ok tokens ∧ t ∈ tokens ∧ t.line = 2 ∧
      (t.token = .op .add ∨ t.token = .compare .add) := by
  have hscan : scan "print (1\n+\n\"a\")" = .ok [⟨.print, 1⟩, ⟨.leftParen, 1⟩, ⟨.number 1, 1⟩,
      ⟨.op .add, 2⟩, ⟨.text "a", 3⟩, ⟨.rightParen, 3⟩] := by with_unfolding_all rfl
  have hp : Parse.program [⟨.print, 1⟩, ⟨.leftParen, 1⟩, ⟨.number 1, 1⟩, ⟨.op .add, 2⟩,
      ⟨.text "a", 3⟩, ⟨.rightParen, 3⟩] = .ok [.print (.binary (.literal (.int 1) 1) .add
        (.literal (.text "a") 3) 2) 1] := by cbv
  have he : (Program.run [.print (.binary (.literal (.int 1) 1) .add (.literal (.text "a") 3) 2) 1]
      .initial).error? = some ⟨.operands .integer .add .text, 2⟩ := by decide
  have hout : output "print (1\n+\n\"a\")" =
      .error (.runtime ⟨.operands .integer .add .text, 2⟩) := by
    rw [output, execute_of_runtimeError hscan hp he]
    rfl
  obtain ⟨tokens, t, op, htokens, ht, hline, hcarries, rfl, -⟩ := runtime_error_names_operator hout
  exact ⟨hout, tokens, t, htokens, ht, hline, hcarries⟩

end Script

end Scriptlet
