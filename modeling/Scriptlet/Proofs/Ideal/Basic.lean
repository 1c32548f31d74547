import Scriptlet.Run

/-!
The language over unbounded integers. Sums, differences, products and negations are exact, division
rounds towards minus infinity and only a zero divisor is refused. A run keeps every statement it
began together with the state it began in.
-/
namespace Scriptlet.Ideal

inductive Value where
  | int (n : Int)
  | text (s : String)
  | bool (b : Bool)
  deriving DecidableEq

namespace Value

def type : Value → ValueType
  | int _ => .integer
  | text _ => .text
  | bool _ => .boolean

def isTruthy : Value → Bool
  | int n => n != 0
  | text s => s != ""
  | bool b => b

def display : Value → String
  | int n => n.repr
  | text s => s
  | bool true => "true"
  | bool false => "false"

def order? : Value → Value → Option Ordering
  | int a, int b => some (compare a b)
  | text a, text b => some (Text.order a b)
  | bool a, bool b => some (compare a b)
  | _, _ => none

/-- Arithmetic without a range. -/
def arithmetic : Operator → Int → Int → Except Fault Int
  | .add, a, b => .ok (a + b)
  | .sub, a, b => .ok (a - b)
  | .mul, a, b => .ok (a * b)
  | .div, a, b => if b = 0 then .error .divisionByZero else .ok (a.fdiv b)
  | op, _, _ => .error (.misapplied op)

def calculate (op : Operator) : Value → Value → Except Fault Value
  | int a, int b => (arithmetic op a b).map int
  | text a, text b =>
    if op = .add then .ok (text (a ++ b)) else .error (.operands .text op .text)
  | a, b => .error (.operands a.type op b.type)

def relate (op : Operator) (a b : Value) : Except Fault Value :=
  match a.order? b with
  | some order => (op.holds? order).elim (.error (.misapplied op)) fun holds => .ok (bool holds)
  | none => if op = .equal then .ok (bool false) else .error (.operands a.type op b.type)

def apply (op : Operator) (a b : Value) : Except Fault Value :=
  if op.isComparison then relate op a b else calculate op a b

def negate : Value → Except Fault Value
  | int n => .ok (int (-n))
  | v => .error (.operand v.type)

end Value

def ofLiteral : Literal → Value
  | .int n => .int n.toInt
  | .text s => .text s

/-- Variables by name. A name that is not bound reads as zero. -/
abbrev Store := String → Option Value

namespace Store

def read (s : Store) (x : String) : Value := (s x).getD (.int 0)

def insert (s : Store) (x : String) (v : Value) : Store :=
  fun y => if x = y then some v else s y

end Store

def eval (store : Store) : Expr → Except RuntimeError Value
  | .literal value _ => .ok (ofLiteral value)
  | .var name _ => .ok (store.read name)
  | .negate operand line => do
    let v ← eval store operand
    Expr.located line v.negate
  | .binary left op right line => do
    let a ← eval store left
    let b ← eval store right
    Expr.located line (Value.apply op a b)

structure State where
  store : Store
  output : Array String

def State.print (s : State) (v : Value) : State :=
  { s with output := s.output.push v.display }

def State.assign (s : State) (x : String) (v : Value) : State :=
  { s with store := s.store.insert x v }

/-- The state a run leaves, the statements it began with the states they began in, and the error
that stopped it. -/
structure Run where
  state : State
  begun : List (Stmt × State)
  error? : Option RuntimeError

/-- Goes on from the state a run leaves, unless an error stopped it. -/
def Run.andThen (r : Run) (next : State → Run) : Run :=
  match r.error? with
  | some _ => r
  | none => { next r.state with begun := r.begun ++ (next r.state).begun }

mutual

def runStmt (s : Stmt) (state : State) : Run :=
  match s with
  | .print value line =>
    match eval state.store value with
    | .ok v => ⟨state.print v, [(.print value line, state)], none⟩
    | .error e => ⟨state, [(.print value line, state)], some e⟩
  | .assign name value line =>
    match eval state.store value with
    | .ok v => ⟨state.assign name v, [(.assign name value line, state)], none⟩
    | .error e => ⟨state, [(.assign name value line, state)], some e⟩
  | .cond condition body line =>
    match eval state.store condition with
    | .ok v =>
      if v.isTruthy then
        let inner := run body state
        { inner with begun := (.cond condition body line, state) :: inner.begun }
      else ⟨state, [(.cond condition body line, state)], none⟩
    | .error e => ⟨state, [(.cond condition body line, state)], some e⟩

def run (p : Program) (state : State) : Run :=
  match p with
  | [] => ⟨state, [], none⟩
  | s :: rest => (runStmt s state).andThen fun next => run rest next

end

end Ideal

/-- A value, a store and a state as the ideal language has them. -/
def Value.ideal : Value → Ideal.Value
  | int n => .int n.toInt
  | text s => .text s
  | bool b => .bool b

def Store.ideal (s : Store) : Ideal.Store :=
  fun x => (s.get? x).map Value.ideal

def State.ideal (s : State) : Ideal.State :=
  ⟨s.store.ideal, s.output⟩

end Scriptlet
