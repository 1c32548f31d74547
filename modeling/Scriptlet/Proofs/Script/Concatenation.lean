import Scriptlet.Proofs.Grammar.Lines
import Scriptlet.Proofs.Lexical.Lines
import Scriptlet.Proofs.Run.Lines
import Scriptlet.Script

/-!
Scripts one after the other. A line break between two scripts keeps their tokens apart, no program
is continued by the first token of another, and a run goes on from the state it left, so two scripts
joined by a line break are the two scripts in turn (`run_concatenation`).
-/
namespace Scriptlet

theorem Grammar.DerivesProgram.append {ts us : List Located} {p q : Program}
    (hp : DerivesProgram ts p) (hq : DerivesProgram us q) : DerivesProgram (ts ++ us) (p ++ q) := by
  induction p generalizing ts with
  | nil =>
    cases hp
    exact hq
  | cons s p ih =>
    cases hp with
    | cons hs hrest =>
      rw [List.append_assoc]
      exact .cons hs (ih hrest)

namespace Script
open Token (scan scanFrom)
open Lexical (scanFrom_append_newline scanFrom_add)

variable {first second : String} {ts us : List Located} {p q : Program}

theorem scan_append_newline (hts : scan first = .ok ts) (hus : scan second = .ok us) :
    scan (first ++ "\n" ++ second) =
      .ok (ts ++ us.map (Located.mapLine (· + (1 + first.toList.count '\n')))) := by
  have htext : (first ++ "\n" ++ second).toList = first.toList ++ '\n' :: second.toList := by simp
  have hline : 1 + first.toList.count '\n' + 1 = 1 + (1 + first.toList.count '\n') := by omega
  have hsecond : scanFrom 1 second.toList = .ok us := hus
  rw [scan, htext, scanFrom_append_newline 1 first.toList second.toList ts hts, hline,
    scanFrom_add, hsecond]
  rfl

theorem program_append_mapLine (k : Nat) (hp : Parse.program ts = .ok p)
    (hq : Parse.program us = .ok q) :
    Parse.program (ts ++ us.map (Located.mapLine (· + k))) = .ok (p ++ q.mapLines (· + k)) := by
  have hshifted := (Grammar.derives_of_program hq).mapLines (f := (· + k))
  exact Grammar.program_eq_ok ((Grammar.derives_of_program hp).append hshifted)

/-- Two scripts joined by a line break have the tokens of the first and then those of the second, on
lines moved down by those of the first. They are read as the two programs in turn, and run as the
first and, unless it fails, the second from the state that the first left. -/
theorem run_concatenation (hts : scan first = .ok ts) (hp : Parse.program ts = .ok p)
    (hus : scan second = .ok us) (hq : Parse.program us = .ok q) :
    let k := 1 + first.toList.count '\n'
    let tokens := ts ++ us.map (Located.mapLine (· + k))
    let whole : Program := p ++ q.mapLines (· + k)
    scan (first ++ "\n" ++ second) = .ok tokens ∧ Parse.program tokens = .ok whole ∧
    ∀ state, match (p.run state).error? with
      | some e => (whole.run state).state = (p.run state).state ∧ (whole.run state).error? = some e
      | none => (whole.run state).state = (q.run (p.run state).state).state ∧
        (whole.run state).error? =
          (q.run (p.run state).state).error?.map (RuntimeError.mapLine (· + k)) := by
  intro k tokens whole
  refine ⟨scan_append_newline hts hus, program_append_mapLine k hp hq, fun state => ?_⟩
  rw [show whole.run state = _ from Program.run_append p _ state]
  split
  · rename_i e he
    rw [Run.andThen_of_error he]
    exact ⟨rfl, he⟩
  · rename_i he
    rw [Run.andThen_of_success he, Program.run_mapLines]
    exact ⟨rfl, rfl⟩

/-- The sign stands on the second line of its script and on the fourth of both, since the text
before holds a line break. -/
theorem run_concatenation_moves_error :
    scan ("x = \"a\nb\"" ++ "\n" ++ "print\n-x") = .ok [⟨.name "x", 1⟩, ⟨.assign, 1⟩,
      ⟨.text "a\nb", 1⟩, ⟨.print, 3⟩, ⟨.op .sub, 4⟩, ⟨.name "x", 4⟩] ∧
    (Program.run [.assign "x" (.literal (.text "a\nb") 1) 1, .print (.negate (.var "x" 4) 4) 3]
      .initial).error? = some ⟨.operand .text, 4⟩ := by
  have hts : scan "x = \"a\nb\"" =
      .ok [⟨.name "x", 1⟩, ⟨.assign, 1⟩, ⟨.text "a\nb", 1⟩] := by with_unfolding_all rfl
  have hp : Parse.program [⟨.name "x", 1⟩, ⟨.assign, 1⟩, ⟨.text "a\nb", 1⟩] =
      .ok [.assign "x" (.literal (.text "a\nb") 1) 1] := by cbv
  have hus : scan "print\n-x" = .ok [⟨.print, 1⟩, ⟨.op .sub, 2⟩, ⟨.name "x", 2⟩] := by
    with_unfolding_all rfl
  have hq : Parse.program [⟨.print, 1⟩, ⟨.op .sub, 2⟩, ⟨.name "x", 2⟩] =
      .ok [.print (.negate (.var "x" 2) 2) 1] := by cbv
  have hk : 1 + "x = \"a\nb\"".toList.count '\n' = 2 := by decide
  obtain ⟨hscan, -, hrun⟩ := run_concatenation hts hp hus hq
  rw [hk] at hscan hrun
  refine ⟨hscan, ?_⟩
  have hfirst :
      (Program.run [.assign "x" (.literal (.text "a\nb") 1) 1] .initial).error? = none := by
    simp [Program.run, Stmt.run, Expr.eval, Run.andThen]
  have h := hrun .initial
  rw [hfirst] at h
  refine h.2.trans ?_
  simp [Program.run, Stmt.run, Expr.eval, Run.andThen, Value.negate, Expr.located, bind,
    Except.bind, Literal.value, RuntimeError.mapLine, Value.type]

end Script

end Scriptlet
