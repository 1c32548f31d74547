import Scriptlet.Proofs.Run.Errors

/-!
What a run depends on. Expressions look at variables only through their names, and a name without a
binding reads as zero. So two states in which a program reads the same values take it through the
same statements (`Runs.inStep`), whatever else they hold.
-/
namespace Scriptlet

/-- The names of the variables in the expression. -/
def Expr.names : Expr → List String
  | literal .. => []
  | var name _ => [name]
  | negate operand _ => operand.names
  | binary left _ right _ => left.names ++ right.names

/-- The names of the variables in all expressions of the program. -/
def Program.reads (p : Program) : List String :=
  p.statements.flatMap fun s => s.expr.names

/-- The name that the statement binds. -/
def Stmt.target? : Stmt → Option String
  | assign name _ _ => some name
  | print .. | cond .. => none

namespace Run

/-- The statements that went through: all that the run began, but for one that failed. -/
def passed (r : Run) : List Stmt :=
  if r.succeeded then r.begun else r.begun.dropLast

/-- The names that the run assigned. -/
def assigned (r : Run) : List String :=
  r.passed.filterMap Stmt.target?

theorem passed_of_success {r : Run} (h : r.error? = none) : r.passed = r.begun := by
  simp [passed, succeeded, h]

end Run

theorem Runs.passed_after {p : Program} {state : State} {r : Run} (h : Runs p state r)
    (before : List Stmt) : (r.after before).passed = before ++ r.passed := by
  cases he : r.error? with
  | none =>
    rw [Run.passed_of_success he, Run.passed_of_success (by exact he)]
    rfl
  | some e =>
    -- The statement to leave out is one of this run, not one of those before.
    obtain ⟨front, s, hbegun, -⟩ := h.stoppedBy he
    simp [Run.passed, Run.succeeded, he, hbegun, ← List.append_assoc]

theorem Expr.eval_congr {store other : Store} {e : Expr}
    (h : ∀ x ∈ e.names, store.read x = other.read x) : e.eval store = e.eval other := by
  induction e with
  | literal value line => rfl
  | var name line => exact congrArg Except.ok (h name List.mem_cons_self)
  | negate operand line ih =>
    have hoperand := ih h
    simp only [eval, hoperand]
  | binary left op right line ihl ihr =>
    have hleft := ihl fun x hx => h x (List.mem_append_left _ hx)
    have hright := ihr fun x hx => h x (List.mem_append_right _ hx)
    simp only [eval, hleft, hright]

namespace Program

variable {s : Stmt} {p body : Program} {x : String}

theorem mem_reads_of_expr (h : x ∈ s.expr.names) : x ∈ Program.reads (s :: p) := by
  obtain ⟨inner, hs⟩ := s.statements_eq_cons
  refine List.mem_flatMap.mpr ⟨s, ?_, h⟩
  rw [Program.statements, hs]
  exact List.mem_cons_self

theorem mem_reads_of_tail (h : x ∈ p.reads) : x ∈ Program.reads (s :: p) := by
  obtain ⟨t, ht, hx⟩ := List.mem_flatMap.mp h
  exact List.mem_flatMap.mpr ⟨t, List.mem_append_right _ ht, hx⟩

theorem mem_reads_of_body {condition : Expr} {line : Nat} (h : x ∈ body.reads) :
    x ∈ Program.reads (.cond condition body line :: p) := by
  obtain ⟨t, ht, hx⟩ := List.mem_flatMap.mp h
  exact List.mem_flatMap.mpr ⟨t, List.mem_append_left _ (List.mem_cons_of_mem _ ht), hx⟩

/-- What the program reads is enough for the expression of its first statement. -/
theorem eval_head_congr {store other : Store}
    (h : ∀ x ∈ Program.reads (s :: p), store.read x = other.read x) :
    s.expr.eval store = s.expr.eval other :=
  Expr.eval_congr fun x hx => h x (mem_reads_of_expr hx)

end Program

/-- The two states after the same statements went through from two others: the same lines were added
to both outputs, and the states agree on what they agreed on before and on what was assigned. -/
structure State.Moved (passed : List Stmt) (s t s' t' : State) : Prop where
  lines : ∃ lines, s'.output = s.output ++ lines ∧ t'.output = t.output ++ lines
  reads : ∀ x, s.store.read x = t.store.read x ∨ x ∈ passed.filterMap Stmt.target? →
    s'.store.read x = t'.store.read x

namespace State.Moved

variable {s t : State}

theorem refl : Moved [] s t s t :=
  ⟨⟨#[], by simp, by simp⟩, fun _ hx => hx.resolve_right List.not_mem_nil⟩

theorem of_target_none {u : Stmt} (h : u.target? = none) : Moved [u] s t s t := by
  refine ⟨⟨#[], by simp, by simp⟩, fun x hx => ?_⟩
  simpa [h] using hx

theorem print (value : Expr) (line : Nat) (v : Value) :
    Moved [.print value line] s t (s.print v) (t.print v) := by
  refine ⟨⟨#[v.display], by simp, by simp⟩, fun x hx => ?_⟩
  simpa [Stmt.target?] using hx

theorem assign (name : String) (value : Expr) (line : Nat) (v : Value) :
    Moved [.assign name value line] s t (s.assign name v) (t.assign name v) := by
  refine ⟨⟨#[], by simp, by simp⟩, fun x hx => ?_⟩
  rw [State.store_assign, State.store_assign, Store.read_insert, Store.read_insert]
  by_cases hname : name = x
  · rw [if_pos hname, if_pos hname]
  · rw [if_neg hname, if_neg hname]
    simpa [Stmt.target?, Ne.symm hname] using hx

theorem trans {first second : List Stmt} {s' t' s'' t'' : State} (h : Moved first s t s' t')
    (h' : Moved second s' t' s'' t'') : Moved (first ++ second) s t s'' t'' := by
  constructor
  · obtain ⟨lines, hs, ht⟩ := h.lines
    obtain ⟨more, hs', ht'⟩ := h'.lines
    refine ⟨lines ++ more, ?_, ?_⟩
    · rw [hs', hs, Array.append_assoc]
    · rw [ht', ht, Array.append_assoc]
  · intro x hx
    rw [List.filterMap_append, List.mem_append, ← or_assoc] at hx
    exact h'.reads x (hx.imp_left (h.reads x))

end State.Moved

/-- Two runs from two states that go through the same statements, to the same end. -/
structure Run.InStep (s t : State) (r r' : Run) : Prop where
  error : r.error? = r'.error?
  begun : r.begun = r'.begun
  moved : State.Moved r.passed s t r.state r'.state

theorem Run.InStep.assigned_eq {s t : State} {r r' : Run} (h : InStep s t r r') :
    r.assigned = r'.assigned := by
  simp [Run.assigned, Run.passed, Run.succeeded, h.error, h.begun]

theorem Run.InStep.after {s t mid mid' : State} {p : Program} {r r' : Run} {before : List Stmt}
    (h : InStep mid mid' r r') (hr : Runs p mid r) (hmoved : State.Moved before s t mid mid') :
    InStep s t (r.after before) (r'.after before) := by
  refine ⟨h.error, congrArg (before ++ ·) h.begun, ?_⟩
  rw [hr.passed_after]
  exact hmoved.trans h.moved

/-- A run from one state is matched by one from every state that reads the same. -/
theorem Runs.inStep {p : Program} {s t : State} {r : Run} (h : Runs p s r)
    (hreads : ∀ x ∈ p.reads, s.store.read x = t.store.read x) :
    ∃ r', Runs p t r' ∧ Run.InStep s t r r' := by
  -- The first statement evaluates to the same from both states, and leaves states that agree on all
  -- names that the rest reads.
  induction h generalizing t with
  | nil => exact ⟨_, .nil t, rfl, rfl, .refl⟩
  | stop he =>
    have heval := Program.eval_head_congr hreads
    exact ⟨_, .stop (heval.symm.trans he), rfl, rfl, .refl⟩
  | @print value line p s v r hv hr ih =>
    have heval := Program.eval_head_congr hreads
    have hmoved : State.Moved [.print value line] s t (s.print v) (t.print v) := .print value line v
    obtain ⟨r', hr', hstep⟩ :=
      ih fun x hx => hmoved.reads x (.inl (hreads x (Program.mem_reads_of_tail hx)))
    exact ⟨_, .print (heval.symm.trans hv) hr', hstep.after hr hmoved⟩
  | @assign name value line p s v r hv hr ih =>
    have heval := Program.eval_head_congr hreads
    have hmoved : State.Moved [.assign name value line] s t (s.assign name v) (t.assign name v) :=
      .assign name value line v
    obtain ⟨r', hr', hstep⟩ :=
      ih fun x hx => hmoved.reads x (.inl (hreads x (Program.mem_reads_of_tail hx)))
    exact ⟨_, .assign (heval.symm.trans hv) hr', hstep.after hr hmoved⟩
  | skip hv ht hr ih =>
    have heval := Program.eval_head_congr hreads
    obtain ⟨r', hr', hstep⟩ := ih fun x hx => hreads x (Program.mem_reads_of_tail hx)
    exact ⟨_, .skip (heval.symm.trans hv) ht hr', hstep.after hr (.of_target_none rfl)⟩
  | @enter condition body p line s v inner r hv ht hbody hinner hr ihbody ih =>
    have heval := Program.eval_head_congr hreads
    obtain ⟨inner', hbody', hstep⟩ := ihbody fun x hx => hreads x (Program.mem_reads_of_body hx)
    have hmoved : State.Moved (.cond condition body line :: inner.begun) s t inner.state
        inner'.state := by
      have hcond : State.Moved [.cond condition body line] s t s t := .of_target_none rfl
      have hinside := hstep.moved
      rw [Run.passed_of_success hinner] at hinside
      exact hcond.trans hinside
    obtain ⟨r', hr', hrest⟩ :=
      ih fun x hx => hmoved.reads x (.inl (hreads x (Program.mem_reads_of_tail hx)))
    refine ⟨r'.after (.cond condition body line :: inner.begun), ?_, hrest.after hr hmoved⟩
    rw [hstep.begun]
    exact .enter (heval.symm.trans hv) ht hbody' (hstep.error ▸ hinner) hr'
  | fail hv ht hbody hinner ihbody =>
    have heval := Program.eval_head_congr hreads
    obtain ⟨inner', hbody', hstep⟩ := ihbody fun x hx => hreads x (Program.mem_reads_of_body hx)
    have hfail := hstep.error ▸ hinner
    exact ⟨_, .fail (heval.symm.trans hv) ht hbody' hfail, hstep.after hbody (.of_target_none rfl)⟩

/-- From two states that read the same on all names in its expressions, a program ends in the same
error or none and prints the same lines. Afterwards the states read the same on every name on which
they did before, and on every name assigned. A name that one of them binds to zero and the other not
at all reads the same in both. -/
theorem Program.run_depends_on_reads (p : Program) (s t : State)
    (h : ∀ x ∈ p.reads, s.store.read x = t.store.read x) :
    (p.run s).error? = (p.run t).error? ∧
    (∃ lines, (p.run s).state.output = s.output ++ lines ∧
      (p.run t).state.output = t.output ++ lines) ∧
    (p.run s).assigned = (p.run t).assigned ∧
    ∀ x, s.store.read x = t.store.read x ∨ x ∈ (p.run s).assigned →
      (p.run s).state.store.read x = (p.run t).state.store.read x := by
  obtain ⟨r', hr', hstep⟩ := (p.runs s).inStep h
  obtain rfl : p.run t = r' := runs_iff.mp hr'
  exact ⟨hstep.error, hstep.moved.lines, hstep.assigned_eq, hstep.moved.reads⟩

/-- One state has no binding for a name that the other binds to zero. The program assigns and prints
by it before it fails. -/
theorem Program.run_depends_on_reads_of_unbound :
    let p : Program := [.assign "y" (.binary (.var "x" 1) .add (.literal (.int 1) 1) 1) 1,
      .print (.var "y" 2) 2, .print (.negate (.literal (.text "a") 3) 3) 3]
    let t : State := ⟨(Store.empty.insert "x" (.int 0)).insert "z" (.text "b"), #["c"]⟩
    State.initial.store.get? "x" = none ∧ t.store.get? "x" = some (.int 0) ∧
    (p.run .initial).error? = (p.run t).error? ∧
    (∃ lines, (p.run .initial).state.output = #[] ++ lines ∧
      (p.run t).state.output = #["c"] ++ lines) ∧
    "y" ∈ (p.run .initial).assigned ∧
    (p.run .initial).state.store.read "y" = (p.run t).state.store.read "y" := by
  intro p t
  have hreads : ∀ x ∈ p.reads, State.initial.store.read x = t.store.read x := by
    simp [p, t, Program.reads, Program.statements, Stmt.statements, Stmt.expr, Expr.names,
      State.initial, Store.read]
  have hassigned : "y" ∈ (p.run .initial).assigned := by
    decide
  obtain ⟨herror, hlines, -, hafter⟩ := p.run_depends_on_reads .initial t hreads
  refine ⟨by simp [State.initial], by simp [t], herror, hlines, hassigned, ?_⟩
  exact hafter "y" (.inr hassigned)

end Scriptlet
