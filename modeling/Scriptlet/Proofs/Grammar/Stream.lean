import Scriptlet.Proofs.Grammar.Expressions

/-!
Reading from a stream. The readers here are steps on the tokens still to come: each looks at the
next token or takes it, and calls the others with no regard to how many are left. What keeps them
from calling one another for ever is a limit on the depth of calls, which a reading may well run
into.
-/
namespace Scriptlet.Stream
open Parse (atom?)

/-- Steps on the tokens to come, which end with a value or an error or are cut off. Tokens that were
taken are gone in either case. -/
abbrev Reading := ExceptT ParseError (StateT (List Located) Option)

/-- What a reading comes to and the tokens it leaves, unless it is cut off. -/
def Reading.outcome {α : Type} (m : Reading α) (ts : List Located) :
    Option (Except ParseError α × List Located) :=
  m.run.run ts

def cutOff {α : Type} : Reading α :=
  ExceptT.mk (StateT.lift none)

def peek : Reading (Option Located) := do
  return (← get).head?

/-- Looks past the next token. -/
def peekSecond : Reading (Option Located) := do
  return (← get).tail.head?

def take : Reading (Option Located) := do
  let ts ← get
  set ts.tail
  return ts.head?

/-- Takes the next token whatever it is, and fails if it is another one. -/
def expect (t : Token) : Reading Unit := do
  match ← take with
  | none => throw (.unexpectedEnd (.token t.kind))
  | some found =>
    if found.token = t then return ()
    else throw (.expectedToken t.kind found.token.kind found.line)

/-- Takes the next token if it stands for an operator of the family. -/
def takeOperator (family : Operator → Bool) : Reading (Option (Operator × Nat)) := do
  match ← peek with
  | none => return none
  | some t =>
    match t.token.operator? with
    | none => return none
    | some op =>
      if family op then
        let _ ← take
        return some (op, t.line)
      else return none

/-- Goes on with a part and then with `next` if an operator of the family joins one. -/
def round (family : Operator → Bool) (part : Reading Expr) (next : Expr → Reading Expr)
    (left : Expr) : Reading Expr := do
  match ← takeOperator family with
  | none => return left
  | some (op, line) =>
    let right ← part
    next (.binary left op right line)

mutual

def primary : Nat → Reading Expr
  | 0 => cutOff
  | depth + 1 => do
    match ← take with
    | none => throw (.unexpectedEnd .expression)
    | some ⟨.leftParen, _⟩ =>
      let inner ← comparison depth
      expect .rightParen
      return inner
    | some t =>
      match atom? t with
      | some e => return e
      | none => throw (.unexpectedToken t.token.kind t.line)

def signed : Nat → Reading Expr
  | 0 => cutOff
  | depth + 1 => do
    match ← peek with
    | some ⟨.op .sub, line⟩ =>
      let _ ← take
      let operand ← signed depth
      return .negate operand line
    | _ => primary depth

def product : Nat → Reading Expr
  | 0 => cutOff
  | depth + 1 => signed depth >>= productFrom depth

def productFrom : Nat → Expr → Reading Expr
  | 0, _ => cutOff
  | depth + 1, left => round Operator.isMultiplicative (signed depth) (productFrom depth) left

def sum : Nat → Reading Expr
  | 0 => cutOff
  | depth + 1 => product depth >>= sumFrom depth

def sumFrom : Nat → Expr → Reading Expr
  | 0, _ => cutOff
  | depth + 1, left => round Operator.isAdditive (product depth) (sumFrom depth) left

def comparison : Nat → Reading Expr
  | 0 => cutOff
  | depth + 1 => sum depth >>= round Operator.isComparison (sum depth) pure

end

def expression : Nat → Reading Expr :=
  comparison

/-- The stream's reader of the phrases of a level. -/
def reader : Grammar.Level → Nat → Reading Expr
  | .comparison => comparison
  | .sum => sum
  | .product => product
  | .signed => signed
  | .primary => primary

mutual

def statement : Nat → Reading Stmt
  | 0 => cutOff
  | depth + 1 => do
    match ← peek with
    | none => throw (.unexpectedEnd .statement)
    | some ⟨.print, line⟩ =>
      let _ ← take
      let e ← expression depth
      return .print e line
    | some ⟨.cond, line⟩ =>
      let _ ← take
      let condition ← expression depth
      let body ← block depth
      return .cond condition body line
    | some ⟨.name x, line⟩ =>
      -- Nothing is taken until the sign is seen.
      match ← peekSecond with
      | none => throw (.unexpectedEnd (.token .assign))
      | some ⟨.assign, _⟩ =>
        let _ ← take
        let _ ← take
        let e ← expression depth
        return .assign x e line
      | some t => throw (.expectedToken .assign t.token.kind t.line)
    | some t => throw (.unexpectedToken t.token.kind t.line)

def block : Nat → Reading (List Stmt)
  | 0 => cutOff
  | depth + 1 => do
    expect .leftBrace
    blockFrom depth

def blockFrom : Nat → Reading (List Stmt)
  | 0 => cutOff
  | depth + 1 => do
    match ← peek with
    | none => throw (.unexpectedEnd (.token .rightBrace))
    | some ⟨.rightBrace, _⟩ =>
      let _ ← take
      return []
    | some _ =>
      let first ← statement depth
      let others ← blockFrom depth
      return first :: others

end

def program : Nat → Reading Program
  | 0 => cutOff
  | depth + 1 => do
    match ← peek with
    | none => return []
    | some _ =>
      let first ← statement depth
      let others ← program depth
      return first :: others

variable {α β : Type} {ts rest : List Located} {m : Reading α} {f : α → Reading β}

theorem outcome_bind_of_ok {a : α} (h : m.outcome ts = some (.ok a, rest)) :
    (m >>= f).outcome ts = (f a).outcome rest := by
  change (m.outcome ts >>= fun p => ExceptT.bindCont f p.1 p.2) = _
  rw [h]
  rfl

theorem outcome_bind_of_error {e : ParseError} (h : m.outcome ts = some (.error e, rest)) :
    (m >>= f).outcome ts = some (.error e, rest) := by
  change (m.outcome ts >>= fun p => ExceptT.bindCont f p.1 p.2) = _
  rw [h]
  rfl

variable {t : Token} {line : Nat}

theorem outcome_expect : (expect t).outcome (⟨t, line⟩ :: ts) = some (.ok (), ts) := by
  rw [expect, outcome_bind_of_ok (a := some ⟨t, line⟩) rfl]
  simp only [↓reduceIte]
  rfl

theorem outcome_expect_of_ne {found : Located} (h : found.token ≠ t) :
    (expect t).outcome (found :: ts) =
      some (.error (.expectedToken t.kind found.token.kind found.line), ts) := by
  rw [expect, outcome_bind_of_ok (a := some found) rfl]
  simp only [h, ↓reduceIte]
  rfl

theorem outcome_expect_nil :
    (expect t).outcome [] = some (.error (.unexpectedEnd (.token t.kind)), []) := rfl

variable {family : Operator → Bool}

theorem outcome_takeOperator_of_opens {op : Operator} (ht : t.operator? = some op)
    (hop : family op = true) :
    (takeOperator family).outcome (⟨t, line⟩ :: ts) = some (.ok (some (op, line)), ts) := by
  rw [takeOperator, outcome_bind_of_ok (a := some ⟨t, line⟩) rfl]
  simp only [ht, hop, ↓reduceIte]
  rfl

theorem outcome_takeOperator_of_not_opens (h : Parse.Opens family ts = false) :
    (takeOperator family).outcome ts = some (.ok none, ts) := by
  cases ts with
  | nil => rfl
  | cons t after =>
    rw [takeOperator, outcome_bind_of_ok (a := some t) rfl]
    cases ht : t.token.operator? with
    | none =>
      simp only [ht]
      rfl
    | some op =>
      have hop : family op = false := by simpa [Parse.Opens, ht] using h
      simp only [ht, hop]
      rfl

theorem outcome_signed {depth : Nat} (h : ∀ line rest, ts ≠ ⟨.op .sub, line⟩ :: rest) :
    (signed (depth + 1)).outcome ts = (primary depth).outcome ts := by
  rw [signed, outcome_bind_of_ok (a := ts.head?) rfl]
  split
  · rename_i line heq
    obtain ⟨rest, rfl⟩ := List.head?_eq_some_iff.mp heq
    exact absurd rfl (h line rest)
  · rfl

end Scriptlet.Stream
