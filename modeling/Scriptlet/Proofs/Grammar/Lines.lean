import Scriptlet.Proofs.Grammar.Agenda
import Scriptlet.Proofs.Grammar.Programs
import Scriptlet.Proofs.Tree.Lines

/-!
Reading does not look at lines. A derivation stays one when the lines of its tokens change, and no
step of a token-by-token reading depends on a line, so `program_mapLine` holds of every token list,
whether it spells a program or not.
-/
namespace Scriptlet

def ParseError.mapLine (f : Nat → Nat) : ParseError → ParseError
  | unexpectedToken found line => unexpectedToken found (f line)
  | expectedToken expected found line => expectedToken expected found (f line)
  | unexpectedEnd expected => unexpectedEnd expected

/-- The errors differ in nothing but their line. -/
def ParseError.SameUpToLine (d e : ParseError) : Prop :=
  d.mapLine (fun _ => 0) = e.mapLine fun _ => 0

namespace Grammar
open Parse

variable {f : Nat → Nat} {goals : List Goal} {ts us : List Located} {t : Located}

theorem Derives.mapLines {level : Level} {e : Expr} (h : Derives level ts e) :
    Derives level (ts.map (Located.mapLine f)) (e.mapLines f) := by
  induction h with
  | number n line => exact .number n (f line)
  | text s line => exact .text s (f line)
  | name x line => exact .name x (f line)
  | parens opening closing _ ih =>
    rw [List.map_append]
    exact .parens (f opening) (f closing) ih
  | operand _ ih => exact .operand ih
  | minus line _ ih => exact .minus (f line) ih
  | factor _ ih => exact .factor ih
  | multiplied line _ ht hop _ ihl ihr =>
    rw [List.map_append]
    exact .multiplied (f line) ihl ht hop ihr
  | term _ ih => exact .term ih
  | added line _ ht hop _ ihl ihr =>
    rw [List.map_append]
    exact .added (f line) ihl ht hop ihr
  | side _ ih => exact .side ih
  | compared line _ ht hop _ ihl ihr =>
    rw [List.map_append]
    exact .compared (f line) ihl ht hop ihr

mutual

theorem DerivesStmt.mapLines {f : Nat → Nat} {ts : List Located} {s : Stmt}
    (h : DerivesStmt ts s) : DerivesStmt (ts.map (Located.mapLine f)) (s.mapLines f) := by
  cases h with
  | print line he => exact .print (f line) he.mapLines
  | cond line opening closing he hbody =>
    rw [List.map_append, List.map_append]
    exact .cond (f line) (f opening) (f closing) he.mapLines (DerivesProgram.mapLines hbody)
  | assign x line sign he => exact .assign x (f line) (f sign) he.mapLines

theorem DerivesProgram.mapLines {f : Nat → Nat} {ts : List Located} {p : Program}
    (h : DerivesProgram ts p) : DerivesProgram (ts.map (Located.mapLine f)) (p.mapLines f) := by
  cases h with
  | nil => exact .nil
  | cons hs hp =>
    rw [List.map_append]
    exact .cons (DerivesStmt.mapLines hs) (DerivesProgram.mapLines hp)

end

theorem opening_mapLine : opening (t.mapLine f) = (opening t).mapError (ParseError.mapLine f) := by
  obtain ⟨t, line⟩ := t
  cases t <;> rfl

theorem isSome_atom?_mapLine : (atom? (t.mapLine f)).isSome = (atom? t).isSome := by
  obtain ⟨t, line⟩ := t
  cases t <;> rfl

theorem advance_mapLine :
    advance goals (t.mapLine f) = (advance goals t).mapError (ParseError.mapLine f) := by
  induction goals with
  | nil => exact opening_mapLine
  | cons goal goals ih =>
    cases goal with
    | operand =>
      simp only [advance, Located.token_mapLine, isSome_atom?_mapLine]
      split
      · rfl
      · rfl
      · split <;> rfl
    | more level =>
      simp only [advance, Located.token_mapLine, ih]
      split <;> rfl
    | mark m =>
      by_cases h : t.token = m.token
      · simp [advance, h]
      · simp [advance, h, ParseError.mapLine, Located.mapLine]
    | body =>
      by_cases h : t.token = .rightBrace
      · simp [advance, h]
      · simp only [advance, Located.token_mapLine, h, ↓reduceIte, opening_mapLine]
        cases opening t <;> rfl

theorem judge_mapLine :
    judge goals (ts.map (Located.mapLine f)) =
      (judge goals ts).mapError (ParseError.mapLine f) := by
  induction ts generalizing goals with
  | nil =>
    rw [List.map_nil, judge_nil, finish]
    cases wanted? goals <;> rfl
  | cons t ts ih =>
    rw [List.map_cons, judge_cons, judge_cons, advance_mapLine]
    cases advance goals t with
    | ok next => exact ih
    | error e => rfl

/-- Tokens on other lines are read as the same program on those lines, or give the same error. -/
theorem program_mapLine (f : Nat → Nat) (ts : List Located) :
    program (ts.map (Located.mapLine f)) =
      ((program ts).map (Program.mapLines f)).mapError (ParseError.mapLine f) := by
  cases h : program ts with
  | ok p => exact program_eq_ok (derives_of_program h).mapLines
  | error e =>
    have hjudge : judge [] (ts.map (Located.mapLine f)) = .error (e.mapLine f) := by
      rw [judge_mapLine, judge_nil_eq, h]
      rfl
    rw [judge_nil_eq] at hjudge
    exact Outcome.map_eq_error_iff.mp hjudge

/-- Tokens without their lines decide what they are read as. -/
theorem program_alike (h : ts.map Located.token = us.map Located.token) :
    Outcome.Alike Program.SameUpToLines ParseError.SameUpToLine (program ts) (program us) := by
  have hplaced : ∀ vs : List Located, vs.map (Located.mapLine fun _ => 0) =
      (vs.map Located.token).map fun t => ⟨t, 0⟩ := by
    intro vs
    rw [List.map_map]
    rfl
  have hsame : ts.map (Located.mapLine fun _ => 0) = us.map (Located.mapLine fun _ => 0) := by
    rw [hplaced, hplaced, h]
  apply Outcome.alike_of_map_eq
  rw [← program_mapLine, ← program_mapLine, hsame]

end Grammar

end Scriptlet
