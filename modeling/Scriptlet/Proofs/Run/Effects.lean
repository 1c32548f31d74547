import Mathlib.Data.List.Forall2
import Scriptlet.Proofs.Run.Dependence

/-!
The effects of a run. A statement that goes through adds one line, binds one name or does neither
(`Step.effect`), and one that fails does nothing. Along a trail this sums up to the lines and
bindings of the whole run, also of a run that an error stopped in the middle of a body.
-/
namespace Scriptlet

/-- The names that the program may bind, in branches of any depth. -/
def Program.targets (p : Program) : List String :=
  p.statements.filterMap Stmt.target?

namespace Stmt

variable {s : Stmt} {v : Value} {state : State} {x : String}

/-- What a statement that goes through does to the state, by the value of its expression. -/
def effect : Stmt → Value → State → State
  | print .., v, state => state.print v
  | assign x .., v, state => state.assign x v
  | cond .., _, state => state

/-- The line tells the value of the statement's expression in the state. -/
def Shows (s : Stmt) (state : State) (line : String) : Prop :=
  ∃ v, s.expr.eval state.store = .ok v ∧ v.display = line

theorem output_effect_of_print (h : s.isPrint = true) :
    (s.effect v state).output = state.output.push v.display := by
  cases s with
  | print value line => rfl
  | assign name value line => cases h
  | cond condition body line => cases h

theorem output_effect_of_not_print (h : s.isPrint = false) :
    (s.effect v state).output = state.output := by
  cases s with
  | print value line => cases h
  | assign name value line => rfl
  | cond condition body line => rfl

theorem get?_effect_of_ne (h : s.target? ≠ some x) :
    (s.effect v state).store.get? x = state.store.get? x := by
  cases s with
  | print value line => rfl
  | assign name value line =>
    have hne : name ≠ x := fun hname => h (congrArg some hname)
    rw [effect, State.store_assign, Store.get?_insert, if_neg hne]
  | cond condition body line => rfl

theorem isSome_get?_effect (h : (state.store.get? x).isSome ∨ s.target? = some x) :
    ((s.effect v state).store.get? x).isSome := by
  by_cases hx : s.target? = some x
  · cases s with
    | print value line => cases hx
    | assign name value line =>
      cases hx
      rw [effect, State.store_assign, Store.get?_insert, if_pos rfl]
      rfl
    | cond condition body line => cases hx
  · rw [get?_effect_of_ne hx]
    exact h.resolve_right hx

/-- A `print` or an assignment that fails leaves the state as it was. -/
theorem state_run_of_error (hs : s.isSimple = true) {e : RuntimeError}
    (he : (s.run state).error? = some e) : (s.run state).state = state := by
  cases hv : s.expr.eval state.store with
  | error d => rw [run_of_error hv]
  | ok v =>
    cases s with
    | print value line =>
      rw [run_print (by exact hv)] at he
      cases he
    | assign name value line =>
      rw [run_assign (by exact hv)] at he
      cases he
    | cond condition body line => cases hs

end Stmt

/-- A step evaluates the expression of the first statement and has the effect of that statement. -/
theorem Step.effect {s : Stmt} {p : Program} {state : State} {d : Program × State}
    (h : Step (s :: p, state) d) :
    ∃ v, s.expr.eval state.store = .ok v ∧ d.2 = s.effect v state := by
  cases h with
  | print hv => exact ⟨_, hv, rfl⟩
  | assign hv => exact ⟨_, hv, rfl⟩
  | skip hv _ => exact ⟨_, hv, rfl⟩
  | enter hv _ => exact ⟨_, hv, rfl⟩

namespace Trail

variable {c d : Program × State} {trail : List (Stmt × State)} {x : String}

/-- The output grows by one line for each `print` on the trail, in order. -/
theorem exists_lines (h : Trail c trail d) :
    ∃ lines, d.2.output = c.2.output ++ lines ∧
      List.Forall₂ (fun place line => place.1.Shows place.2 line)
        (trail.filter fun place => place.1.isPrint) lines.toList := by
  induction h with
  | nil c => exact ⟨#[], by simp, .nil⟩
  | @cons s p state c d trail hstep _ ih =>
    obtain ⟨v, hv, hc⟩ := hstep.effect
    obtain ⟨lines, hlines, hall⟩ := ih
    rw [hc] at hlines
    cases hs : s.isPrint with
    | true =>
      rw [Stmt.output_effect_of_print hs] at hlines
      refine ⟨#[v.display] ++ lines, ?_, ?_⟩
      · rw [hlines, Array.push_eq_append, Array.append_assoc]
      · rw [List.filter_cons_of_pos (by exact hs), Array.toList_append]
        exact .cons ⟨v, hv, rfl⟩ hall
    | false =>
      rw [Stmt.output_effect_of_not_print hs] at hlines
      refine ⟨lines, hlines, ?_⟩
      rwa [List.filter_cons_of_neg (by simp [hs])]

theorem get?_eq (h : Trail c trail d)
    (hx : x ∉ (trail.map Prod.fst).filterMap Stmt.target?) :
    d.2.store.get? x = c.2.store.get? x := by
  induction h with
  | nil c => rfl
  | @cons s p state c d trail hstep _ ih =>
    obtain ⟨v, -, hc⟩ := hstep.effect
    simp only [List.mem_filterMap, List.map_cons, List.mem_cons, not_exists, not_and,
      forall_eq_or_imp] at hx ih
    rw [ih hx.2, hc, Stmt.get?_effect_of_ne hx.1]

theorem isSome_get? (h : Trail c trail d)
    (hx : (c.2.store.get? x).isSome ∨ x ∈ (trail.map Prod.fst).filterMap Stmt.target?) :
    (d.2.store.get? x).isSome := by
  induction h with
  | nil c => exact hx.resolve_right List.not_mem_nil
  | @cons s p state c d trail hstep _ ih =>
    obtain ⟨v, -, hc⟩ := hstep.effect
    apply ih
    rw [hc]
    -- The name was bound before, or by this statement, or is by a later one.
    by_cases hs : (state.store.get? x).isSome ∨ s.target? = some x
    · exact .inl (Stmt.isSome_get?_effect hs)
    · right
      simpa [not_or.mp hs] using hx

end Trail

theorem Run.passed_of_leaves {r : Run} {front : List Stmt} {rest : Program} (hrest : r.Leaves rest)
    (hbegun : r.begun = front ++ rest.head?.toList) : r.passed = front := by
  cases he : r.error? with
  | none =>
    rw [Run.leaves_of_success he] at hrest
    rw [passed_of_success he, hbegun, hrest]
    exact List.append_nil front
  | some e =>
    obtain ⟨s, p, rfl, -⟩ := (Run.leaves_of_error he).mp hrest
    simp [passed, succeeded, he, hbegun]

namespace Runs

variable {p : Program} {state : State} {r : Run} {x : String}

/-- The trail of a run is over the statements that went through. -/
theorem exists_trail_passed (h : Runs p state r) :
    ∃ trail rest, Trail (p, state) trail (rest, r.state) ∧ r.Leaves rest ∧
      trail.map Prod.fst = r.passed := by
  obtain ⟨trail, rest, htrail, hrest, hbegun⟩ := h.exists_trail
  exact ⟨trail, rest, htrail, hrest, (Run.passed_of_leaves hrest hbegun).symm⟩

/-- A run that succeeds has printed once for each `print` it began. -/
theorem size_output (h : Runs p state r) (he : r.error? = none) :
    r.state.output.size = state.output.size + r.begun.countP Stmt.isPrint := by
  obtain ⟨trail, rest, htrail, -, hpassed⟩ := h.exists_trail_passed
  obtain ⟨lines, hlines, hall⟩ := htrail.exists_lines
  have hcount : r.begun.countP Stmt.isPrint = lines.size := by
    rw [← Run.passed_of_success he, ← hpassed, List.countP_map, List.countP_eq_length_filter]
    exact hall.length_eq
  rw [hlines, Array.size_append, hcount]

theorem get?_of_not_mem_assigned (h : Runs p state r) (hx : x ∉ r.assigned) :
    r.state.store.get? x = state.store.get? x := by
  obtain ⟨trail, rest, htrail, -, hpassed⟩ := h.exists_trail_passed
  rw [Run.assigned, ← hpassed] at hx
  exact htrail.get?_eq hx

theorem isSome_get? (h : Runs p state r) (hx : (state.store.get? x).isSome ∨ x ∈ r.assigned) :
    (r.state.store.get? x).isSome := by
  obtain ⟨trail, rest, htrail, -, hpassed⟩ := h.exists_trail_passed
  rw [Run.assigned, ← hpassed] at hx
  exact htrail.isSome_get? hx

theorem passed_sublist (h : Runs p state r) : r.passed.Sublist p.statements := by
  have hbegun : r.passed.Sublist r.begun := by
    unfold Run.passed
    split
    · exact .refl _
    · exact List.dropLast_sublist _
  exact hbegun.trans h.selects.sublist

theorem get?_of_not_mem_targets (h : Runs p state r) (hx : x ∉ p.targets) :
    r.state.store.get? x = state.store.get? x := by
  apply h.get?_of_not_mem_assigned
  intro hassigned
  exact hx ((h.passed_sublist.filterMap Stmt.target?).subset hassigned)

end Runs

/-- A run, whether it succeeds or fails, adds to the output one line for each `print` that went
through, in order, and each tells the value that the statement had when it was begun. A name that no
assignment of the program binds keeps its binding or stays without one, and a bound name stays
bound. A single `print` or assignment that fails leaves the state as it was. -/
theorem Program.run_only_appends_and_assigns (p : Program) (state : State) :
    let r := p.run state
    (∃ trail rest lines, Trail (p, state) trail (rest, r.state) ∧ r.Leaves rest ∧
      trail.map Prod.fst = r.passed ∧ r.state.output = state.output ++ lines ∧
      List.Forall₂ (fun place line => place.1.Shows place.2 line)
        (trail.filter fun place => place.1.isPrint) lines.toList) ∧
    (∀ x, x ∉ p.targets → r.state.store.get? x = state.store.get? x) ∧
    (∀ x, (state.store.get? x).isSome → (r.state.store.get? x).isSome) ∧
    ∀ (s : Stmt) (e : RuntimeError), s.isSimple = true → (s.run state).error? = some e →
      (s.run state).state = state := by
  intro r
  have hrun : Runs p state r := p.runs state
  obtain ⟨trail, rest, htrail, hrest, hpassed⟩ := hrun.exists_trail_passed
  obtain ⟨lines, hlines, hall⟩ := htrail.exists_lines
  refine ⟨⟨trail, rest, lines, htrail, hrest, hpassed, hlines, hall⟩, ?_, ?_, ?_⟩
  · intro x hx
    exact hrun.get?_of_not_mem_targets hx
  · intro x hx
    exact hrun.isSome_get? (.inl hx)
  · intro s e hs he
    exact Stmt.state_run_of_error hs he

/-- The body prints and assigns before it fails. The name it does not assign keeps its text, and the
statement that fails has no effect of its own. -/
theorem Program.run_only_appends_and_assigns_of_body :
    let failing : Stmt := .print (.negate (.var "x" 4) 4) 4
    let p : Program := [.cond (.literal (.int 1) 1)
      [.print (.var "x" 2) 2, .assign "y" (.var "x" 3) 3, failing] 1]
    let state : State := ⟨Store.empty.insert "x" (.text "a"), #["b"]⟩
    (p.run state).error? = some ⟨.operand .text, 4⟩ ∧
    (p.run state).state.output = #["b", "a"] ∧
    "x" ∉ p.targets ∧ (p.run state).state.store.get? "x" = some (.text "a") ∧
    (failing.run state).error? = some ⟨.operand .text, 4⟩ ∧ (failing.run state).state = state := by
  intro failing p state
  have hfailing : (failing.run state).error? = some ⟨.operand .text, 4⟩ := by decide
  have hx : "x" ∉ p.targets := by decide
  obtain ⟨-, hframe, -, hfail⟩ := p.run_only_appends_and_assigns state
  refine ⟨by decide, by decide, hx, ?_, hfailing, hfail failing _ rfl hfailing⟩
  rw [hframe "x" hx]
  simp [state]

end Scriptlet
