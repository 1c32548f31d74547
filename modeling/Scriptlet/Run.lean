import Scriptlet.Eval

/-!
Running statements. A run starts from a state and leaves another, also when an error stops it: what
was printed and assigned before the error stays. The statements it began are kept in order.
-/
namespace Scriptlet

/-- What a script works on: its variables and the lines it has printed. -/
structure State where
  store : Store
  output : Array String

namespace State

def initial : State := ⟨.empty, #[]⟩

def print (s : State) (v : Value) : State :=
  { s with output := s.output.push v.display }

def assign (s : State) (x : String) (v : Value) : State :=
  { s with store := s.store.insert x v }

@[simp] theorem store_print (s : State) (v : Value) : (s.print v).store = s.store := rfl

@[simp] theorem output_print (s : State) (v : Value) :
    (s.print v).output = s.output.push v.display := rfl

@[simp] theorem store_assign (s : State) (x : String) (v : Value) :
    (s.assign x v).store = s.store.insert x v := rfl

@[simp] theorem output_assign (s : State) (x : String) (v : Value) :
    (s.assign x v).output = s.output := rfl

end State

/-- The state a run leaves, the statements it began, and the error that stopped it. -/
structure Run where
  state : State
  begun : List Stmt
  error? : Option RuntimeError

namespace Run

def succeeded (r : Run) : Bool := r.error?.isNone

/-- Goes on from the state a run leaves, unless an error stopped it. -/
def andThen (r : Run) (next : State → Run) : Run :=
  match r.error? with
  | some _ => r
  | none =>
    let last := next r.state
    { last with begun := r.begun ++ last.begun }

theorem andThen_of_error {r : Run} {e : RuntimeError} (h : r.error? = some e)
    (next : State → Run) : r.andThen next = r := by
  simp [andThen, h]

theorem andThen_of_success {r : Run} (h : r.error? = none) (next : State → Run) :
    r.andThen next = { next r.state with begun := r.begun ++ (next r.state).begun } := by
  simp [andThen, h]

theorem andThen_assoc (r : Run) (f g : State → Run) :
    (r.andThen f).andThen g = r.andThen fun s => (f s).andThen g := by
  cases hr : r.error? with
  | some e => simp only [andThen_of_error hr]
  | none =>
    cases hf : (f r.state).error? with
    | some e => simp [andThen, hr, hf]
    | none => simp [andThen, hr, hf]

end Run

mutual

def Stmt.run (s : Stmt) (state : State) : Run :=
  match s with
  | .print value line =>
    match value.eval state.store with
    | .ok v => ⟨state.print v, [.print value line], none⟩
    | .error e => ⟨state, [.print value line], some e⟩
  | .assign name value line =>
    match value.eval state.store with
    | .ok v => ⟨state.assign name v, [.assign name value line], none⟩
    | .error e => ⟨state, [.assign name value line], some e⟩
  | .cond condition body line =>
    match condition.eval state.store with
    | .ok v =>
      if v.isTruthy then
        let inner := Program.run body state
        { inner with begun := .cond condition body line :: inner.begun }
      else ⟨state, [.cond condition body line], none⟩
    | .error e => ⟨state, [.cond condition body line], some e⟩

/-- Runs statements one after the other, up to the first error. -/
def Program.run (p : Program) (state : State) : Run :=
  match p with
  | [] => ⟨state, [], none⟩
  | s :: rest => (s.run state).andThen fun next => Program.run rest next

end

@[simp] theorem Program.run_nil (state : State) : Program.run [] state = ⟨state, [], none⟩ := by
  simp only [Program.run]

theorem Program.run_cons (s : Stmt) (p : Program) (state : State) :
    Program.run (s :: p) state = (s.run state).andThen fun next => Program.run p next := by
  simp only [Program.run]

/-- Running a program and then another is running them as one. -/
theorem Program.run_append (p q : Program) (state : State) :
    Program.run (p ++ q) state = (Program.run p state).andThen fun next => Program.run q next := by
  induction p generalizing state with
  | nil => simp [Run.andThen]
  | cons s p ih =>
    rw [List.cons_append, Program.run_cons, Program.run_cons, Run.andThen_assoc]
    congr 1
    funext next
    exact ih next

end Scriptlet
