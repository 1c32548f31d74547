import Scriptlet.Parse.Expr

/-!
Reading statements, blocks and whole programs. A program is any number of statements with nothing
between them.
-/
namespace Scriptlet.Parse

mutual

/-- One statement. Its first token decides which, and a name has to be followed by `=`. -/
def statement (ts : List Located) : Reply Stmt ts.length :=
  match ts with
  | [] => .fail (.unexpectedEnd .statement) []
  | ⟨.print, line⟩ :: rest => ((expression rest).map (.print · line)).weaken (by simp)
  | ⟨.cond, line⟩ :: rest =>
    (expression rest).andThen fun condition after fewer =>
      ((block after).map (.cond condition · line)).weaken (by simp; omega)
  | ⟨.name x, line⟩ :: ⟨.assign, _⟩ :: rest =>
    ((expression rest).map (.assign x · line)).weaken (by simp; omega)
  | ⟨.name x, line⟩ :: ⟨t, found⟩ :: rest =>
    .fail (.expectedToken .assign t.kind found) (⟨.name x, line⟩ :: ⟨t, found⟩ :: rest)
  | [⟨.name x, line⟩] => .fail (.unexpectedEnd (.token .assign)) [⟨.name x, line⟩]
  | ⟨t, line⟩ :: rest => .fail (.unexpectedToken t.kind line) (⟨t, line⟩ :: rest)
termination_by (ts.length, 0)

/-- Statements in braces. -/
def block (ts : List Located) : Reply (List Stmt) ts.length :=
  match ts with
  | [] => .fail (.unexpectedEnd (.token .leftBrace)) []
  | ⟨.leftBrace, _⟩ :: rest => (blockFrom rest).weaken (by simp)
  | ⟨t, line⟩ :: rest => .fail (.expectedToken .leftBrace t.kind line) rest
termination_by (ts.length, 0)

/-- The rest of a block after its opening brace. -/
def blockFrom (ts : List Located) : Reply (List Stmt) ts.length :=
  match ts with
  | [] => .fail (.unexpectedEnd (.token .rightBrace)) []
  | ⟨.rightBrace, _⟩ :: rest => .done [] rest (by simp)
  | ts =>
    (statement ts).andThen fun first rest fewer =>
      ((blockFrom rest).map (first :: ·)).weaken (by omega)
termination_by (ts.length, 1)

end

/-- The program that a whole token list spells out. -/
def program (ts : List Located) : Except ParseError Program :=
  match ts with
  | [] => .ok []
  | ts =>
    match statement ts with
    | .done first rest _ => (program rest).map (first :: ·)
    | .fail error _ => .error error
termination_by ts.length

end Scriptlet.Parse
