import Scriptlet.Proofs.Grammar.Lines
import Scriptlet.Proofs.Lexical.Lines
import Scriptlet.Proofs.Run.Lines
import Scriptlet.Proofs.Script.Stages

/-!
Scripts laid out on other lines. Reading and running commute with every change of lines, also with
the one that moves everything to a single line and so forgets the layout. Hence the tokens without
their lines determine everything but the line of an error (`layout_preserves_meaning`).
-/
namespace Scriptlet

/-- The errors differ in nothing but their line. -/
def ScriptError.SameUpToLine : ScriptError → ScriptError → Prop
  | lex d, lex e => d.mapLine (fun _ => 0) = e.mapLine fun _ => 0
  | parse d, parse e => d.SameUpToLine e
  | runtime d, runtime e => d.SameUpToLine e
  | _, _ => False

namespace Script
open Token (scan)

variable {first second : String} {ts us : List Located} {p q : Program}

theorem output_alike_of_programs (hts : scan first = .ok ts) (hus : scan second = .ok us)
    (hp : Parse.program ts = .ok p) (hq : Parse.program us = .ok q) (h : p.SameUpToLines q) :
    Outcome.Alike (· = ·) ScriptError.SameUpToLine (output first) (output second) := by
  obtain ⟨hstate, herror⟩ := Program.run_sameUpToLines h .initial
  generalize hpe : (p.run .initial).error? = x at herror
  generalize hqe : (q.run .initial).error? = y at herror
  rw [output, output]
  cases herror with
  | none =>
    rw [execute_of_success hts hp hpe, execute_of_success hus hq hqe, hstate]
    exact .ok rfl
  | some hde =>
    rw [execute_of_runtimeError hts hp hpe, execute_of_runtimeError hus hq hqe]
    exact .error hde

/-- Lines have no influence but on the line of an error. Tokens that differ in their lines only are
read as programs that do, or fail alike. Such programs run alike from every state. So two scripts
with the same tokens have the same output, or fail alike. -/
theorem layout_preserves_meaning :
    (∀ ts us : List Located, ts.map Located.token = us.map Located.token →
      Outcome.Alike Program.SameUpToLines ParseError.SameUpToLine (Parse.program ts)
        (Parse.program us)) ∧
    (∀ p q : Program, p.SameUpToLines q → ∀ state,
      (p.run state).state = (q.run state).state ∧
        Option.Rel RuntimeError.SameUpToLine (p.run state).error? (q.run state).error?) ∧
    ∀ first second ts us, scan first = .ok ts → scan second = .ok us →
      ts.map Located.token = us.map Located.token →
        Outcome.Alike (· = ·) ScriptError.SameUpToLine (output first) (output second) := by
  refine ⟨fun ts us h => Grammar.program_alike h,
    fun p q h state => Program.run_sameUpToLines h state, ?_⟩
  intro first second ts us hts hus h
  have halike := Grammar.program_alike h
  generalize hp : Parse.program ts = x at halike
  generalize hq : Parse.program us = y at halike
  cases halike with
  | ok hsame => exact output_alike_of_programs hts hus hp hq hsame
  | error hsame =>
    rw [output, output, execute_of_parseError hts hp, execute_of_parseError hus hq]
    exact .error hsame

/-- A division on one line and one on four lines fail alike, the one with another line than the
other. -/
theorem layout_preserves_meaning_of_division :
    (∃ ts us, scan "print 1 / 0" = .ok ts ∧ scan "print\n1\n/\n0" = .ok us ∧
      ts ≠ us ∧ ts.map Located.token = us.map Located.token) ∧
    Outcome.Alike (· = ·) ScriptError.SameUpToLine (output "print 1 / 0")
      (output "print\n1\n/\n0") := by
  have hts : scan "print 1 / 0" =
      .ok [⟨.print, 1⟩, ⟨.number 1, 1⟩, ⟨.op .div, 1⟩, ⟨.number 0, 1⟩] := by with_unfolding_all rfl
  have hus : scan "print\n1\n/\n0" =
      .ok [⟨.print, 1⟩, ⟨.number 1, 2⟩, ⟨.op .div, 3⟩, ⟨.number 0, 4⟩] := by with_unfolding_all rfl
  exact ⟨⟨_, _, hts, hus, by decide, by decide⟩,
    layout_preserves_meaning.2.2 _ _ _ _ hts hus (by decide)⟩

end Script

end Scriptlet
