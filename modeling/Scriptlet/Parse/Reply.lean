import Scriptlet.Error
import Scriptlet.Token.Basic

/-!
What reading a phrase from the front of a token list comes to. Both outcomes keep the tokens left
over. Success leaves fewer than a given bound, which is what the recursion of the readers rests on.
-/
namespace Scriptlet

inductive Reply (α : Type) (bound : Nat) where
  | done (value : α) (rest : List Located) (fewer : rest.length < bound)
  | fail (error : ParseError) (rest : List Located)

namespace Reply

variable {α β : Type} {m n : Nat}

/-- The phrase read, or the first error. -/
def result : Reply α n → Except ParseError α
  | done value _ _ => .ok value
  | fail error _ => .error error

/-- The tokens not taken. -/
def rest : Reply α n → List Located
  | done _ rest _ => rest
  | fail _ rest => rest

def map (f : α → β) : Reply α n → Reply β n
  | done value rest fewer => done (f value) rest fewer
  | fail error rest => fail error rest

/-- The same reply under a larger bound. -/
def weaken (h : m ≤ n) : Reply α m → Reply α n
  | done value rest fewer => done value rest (Nat.lt_of_lt_of_le fewer h)
  | fail error rest => fail error rest

/-- Reads on after a success. -/
def andThen (r : Reply α m)
    (next : α → (rest : List Located) → rest.length < m → Reply β n) : Reply β n :=
  match r with
  | done value rest fewer => next value rest fewer
  | fail error rest => fail error rest

@[simp] theorem result_map (f : α → β) (r : Reply α n) : (r.map f).result = r.result.map f := by
  cases r <;> rfl

@[simp] theorem rest_map (f : α → β) (r : Reply α n) : (r.map f).rest = r.rest := by
  cases r <;> rfl

@[simp] theorem result_weaken (h : m ≤ n) (r : Reply α m) : (r.weaken h).result = r.result := by
  cases r <;> rfl

@[simp] theorem rest_weaken (h : m ≤ n) (r : Reply α m) : (r.weaken h).rest = r.rest := by
  cases r <;> rfl

theorem length_rest_lt {r : Reply α n} {value : α} (h : r.result = .ok value) :
    r.rest.length < n := by
  cases r with
  | done _ _ fewer => exact fewer
  | fail => simp [result] at h

end Reply

end Scriptlet
