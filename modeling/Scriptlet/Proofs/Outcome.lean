/-!
When a computation made of others ends in a value and when it ends in an error, and computations
that end alike.
-/
namespace Scriptlet.Outcome

variable {ε α β : Type} {x : Except ε α} {f : α → β}

@[simp] theorem mapError_ok {δ : Type} {g : ε → δ} {a : α} :
    (Except.ok a : Except ε α).mapError g = .ok a := rfl

@[simp] theorem mapError_error {δ : Type} {g : ε → δ} {e : ε} :
    (Except.error e : Except ε α).mapError g = .error (g e) := rfl

theorem map_eq_ok_iff {b : β} : x.map f = .ok b ↔ ∃ a, x = .ok a ∧ f a = b := by
  cases x <;> simp [Except.map]

theorem map_eq_error_iff {e : ε} : x.map f = .error e ↔ x = .error e := by
  cases x <;> simp [Except.map]

theorem bind_eq_ok_iff {next : α → Except ε β} {b : β} :
    (x >>= next) = .ok b ↔ ∃ a, x = .ok a ∧ next a = .ok b := by
  cases x <;> simp [bind, Except.bind]

theorem bind_eq_error_iff {next : α → Except ε β} {e : ε} :
    (x >>= next) = .error e ↔ x = .error e ∨ ∃ a, x = .ok a ∧ next a = .error e := by
  cases x <;> simp [bind, Except.bind]

/-- Neither step ends in the error, so the two together do not. -/
theorem bind_ne_error {next : α → Except ε β} {e : ε} (hx : x ≠ .error e)
    (hnext : ∀ a, next a ≠ .error e) : (x >>= next) ≠ .error e := by
  cases x with
  | ok a => exact hnext a
  | error d => simpa [bind, Except.bind] using hx

/-- Both outcomes are values, in the first relation, or both are errors, in the second. -/
inductive Alike (values : α → α → Prop) (errors : ε → ε → Prop) :
    Except ε α → Except ε α → Prop
  | ok {a b : α} : values a b → Alike values errors (.ok a) (.ok b)
  | error {d e : ε} : errors d e → Alike values errors (.error d) (.error e)

theorem alike_of_map_eq {δ : Type} {g : ε → δ} {y : Except ε α}
    (h : (x.map f).mapError g = (y.map f).mapError g) :
    Alike (fun a b => f a = f b) (fun d e => g d = g e) x y := by
  cases x with
  | ok a =>
    cases y with
    | ok b => exact .ok (Except.ok.inj h)
    | error e => cases h
  | error d =>
    cases y with
    | ok b => cases h
    | error e => exact .error (Except.error.inj h)

end Scriptlet.Outcome
