/-!
Computations with partial operations. Outside its domain a partial operation panics, which ends
everything; an error, by contrast, is an ordinary outcome. `calm` marks the computations that only
have ordinary outcomes, and `calm_bind` composes them.
-/
namespace Scriptlet

/-- The partial operations: lowering a count, cutting a part out of a text, the remainder and the
predecessor of a word, and the use of an operator as one of the other family. -/
inductive Panic where
  | subtraction
  | slice
  | remainder
  | predecessor
  | ordering
  | scalar
  deriving DecidableEq

/-- A computation that ends in a value or an error unless it panics. -/
abbrev Guarded (ε α : Type) := ExceptT ε (Except Panic) α

namespace Guarded

variable {ε δ α β : Type}

def panic (p : Panic) : Guarded ε α := .mk (.error p)

/-- A computation without partial operations. -/
def calm (x : Except ε α) : Guarded ε α := .mk (.ok x)

@[simp] theorem run_calm (x : Except ε α) : (calm x).run = .ok x := rfl

theorem calm_ne_panic (x : Except ε α) (p : Panic) : calm x ≠ panic p := by
  intro h
  have hrun := congrArg ExceptT.run h
  simp [calm, panic] at hrun

theorem calm_bind (x : Except ε α) (f : α → Except ε β) :
    (calm x >>= fun a => calm (f a)) = calm (x >>= f) := by
  cases x <;> rfl

theorem calm_map (x : Except ε α) (f : α → β) : f <$> calm x = calm (x.map f) := by
  cases x <;> rfl

theorem adapt_calm (x : Except ε α) (f : ε → δ) : (calm x).adapt f = calm (x.mapError f) := by
  cases x <;> rfl

def subtract (a b : Nat) : Guarded ε Nat :=
  if b ≤ a then calm (.ok (a - b)) else panic .subtraction

/-- A count that was raised can be lowered again. -/
theorem subtract_add (a b : Nat) : (subtract (a + b) b : Guarded ε Nat) = calm (.ok a) := by
  rw [subtract, if_pos (Nat.le_add_left b a), Nat.add_sub_cancel]

/-- The number of bytes of a text in UTF-8. -/
def byteLength : List Char → Nat
  | [] => 0
  | c :: w => c.utf8Size + byteLength w

theorem byteLength_append (v w : List Char) :
    byteLength (v ++ w) = byteLength v + byteLength w := by
  induction v with
  | nil => simp [byteLength]
  | cons c v ih =>
    rw [List.cons_append, byteLength, byteLength, ih]
    omega

/-- Both sides of a place given in bytes, when a character starts there or the text ends. -/
def splitAtByte? : List Char → Nat → Option (List Char × List Char)
  | w, 0 => some ([], w)
  | [], _ + 1 => none
  | c :: w, n + 1 =>
    if c.utf8Size ≤ n + 1 then
      (splitAtByte? w (n + 1 - c.utf8Size)).map fun sides => (c :: sides.1, sides.2)
    else none

theorem splitAtByte?_append (front back : List Char) :
    splitAtByte? (front ++ back) (byteLength front) = some (front, back) := by
  induction front with
  | nil => simp [byteLength, splitAtByte?]
  | cons c front ih =>
    have hlength : byteLength (c :: front) = c.utf8Size + byteLength front := rfl
    have hpos := c.utf8Size_pos
    obtain ⟨n, hn⟩ : ∃ n, byteLength (c :: front) = n + 1 := Nat.exists_eq_add_one.mpr (by omega)
    have hrest : n + 1 - c.utf8Size = byteLength front := by omega
    rw [hn, List.cons_append, splitAtByte?, if_pos (by omega), hrest, ih]
    rfl

/-- The part of a text between two places given in bytes. -/
def slice (w : List Char) (first last : Nat) : Guarded ε (List Char) :=
  match splitAtByte? w last with
  | none => panic .slice
  | some (front, _) =>
    match splitAtByte? front first with
    | none => panic .slice
    | some (_, part) => calm (.ok part)

/-- Takes the first and the last byte off a text. -/
def unquote (w : List Char) : Guarded ε (List Char) := do
  let last ← subtract (byteLength w) 1
  slice w 1 last

theorem unquote_eq (body : List Char) :
    (unquote ('"' :: body ++ ['"']) : Guarded ε (List Char)) = calm (.ok body) := by
  have hlength : byteLength ('"' :: body ++ ['"']) = byteLength ('"' :: body) + 1 :=
    byteLength_append ('"' :: body) ['"']
  have hlast := splitAtByte?_append ('"' :: body) ['"']
  have hfirst : splitAtByte? ('"' :: body) 1 = some (['"'], body) := splitAtByte?_append ['"'] body
  rw [unquote, hlength, subtract_add]
  show slice _ 1 (byteLength ('"' :: body)) = _
  rw [slice, hlast]
  dsimp only
  rw [hfirst]

/-- A lone quote has no inside. -/
example : (unquote ['"'] : Guarded ε (List Char)) = panic .slice := rfl

end Guarded

end Scriptlet
