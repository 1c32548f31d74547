import Std.Data.ExtTreeMap
import Scriptlet.Value.Basic

/-!
The variables of a script, ordered by name. A store is determined by its lookups, and a variable
that was never assigned reads as zero.
-/
namespace Scriptlet

structure Store where
  bindings : Std.ExtTreeMap String Value compare

namespace Store

def empty : Store := ⟨∅⟩

def get? (s : Store) (x : String) : Option Value := s.bindings[x]?

/-- The value of a variable in an expression. -/
def read (s : Store) (x : String) : Value := (s.get? x).getD (.int 0)

def insert (s : Store) (x : String) (v : Value) : Store := ⟨s.bindings.insert x v⟩

def erase (s : Store) (x : String) : Store := ⟨s.bindings.erase x⟩

/-- The bindings in the order of their names. -/
def toList (s : Store) : List (String × Value) := s.bindings.toList

@[ext] theorem ext {s t : Store} (h : ∀ x, s.get? x = t.get? x) : s = t := by
  obtain ⟨s⟩ := s
  obtain ⟨t⟩ := t
  rw [mk.injEq]
  exact Std.ExtTreeMap.ext_getElem? h

@[simp] theorem get?_empty (x : String) : empty.get? x = none := by
  simp [empty, get?]

@[simp] theorem get?_insert (s : Store) (x y : String) (v : Value) :
    (s.insert x v).get? y = if x = y then some v else s.get? y := by
  simp [insert, get?, Std.ExtTreeMap.getElem?_insert]

@[simp] theorem get?_erase (s : Store) (x y : String) :
    (s.erase x).get? y = if x = y then none else s.get? y := by
  simp [erase, get?, Std.ExtTreeMap.getElem?_erase]

@[simp] theorem read_insert (s : Store) (x y : String) (v : Value) :
    (s.insert x v).read y = if x = y then v else s.read y := by
  unfold read
  rw [get?_insert]
  split <;> rfl

@[simp] theorem read_erase_self (s : Store) (x : String) : (s.erase x).read x = .int 0 := by
  simp [read]

end Store

end Scriptlet
