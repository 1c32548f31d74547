import Scriptlet.Proofs.Run.Effects

/-!
Programs that do not touch each other. A run changes only the names its program assigns
(`Runs.get?_of_not_mem_targets`) and looks only at the names its program reads (`Runs.inStep`). So
of two programs of which neither assigns what the other reads or assigns, each runs as if the other
had not run, and it does not matter which comes first.
-/
namespace Scriptlet

/-- A `print` stands somewhere in the program, at any depth. -/
def Program.prints (p : Program) : Bool :=
  p.statements.any Stmt.isPrint

/-- Neither program assigns a name that the other reads or assigns, and not both print. -/
structure Program.Independent (p q : Program) : Prop where
  reads_right : ∀ x ∈ p.targets, x ∉ q.reads
  targets : ∀ x ∈ p.targets, x ∉ q.targets
  reads_left : ∀ x ∈ q.targets, x ∉ p.reads
  prints : ¬(p.prints = true ∧ q.prints = true)

theorem Store.get?_eq_of_read_eq {s t : Store} {x : String} (h : s.read x = t.read x)
    (hs : (s.get? x).isSome) (ht : (t.get? x).isSome) : s.get? x = t.get? x := by
  obtain ⟨v, hv⟩ := Option.isSome_iff_exists.mp hs
  obtain ⟨w, hw⟩ := Option.isSome_iff_exists.mp ht
  rw [Store.read, Store.read, hv, hw] at h
  rw [hv, hw]
  exact congrArg some h

/-- Runs in step leave the same binding to a name that had the same binding before. -/
theorem Run.InStep.get?_eq {p : Program} {s t : State} {r r' : Run} {x : String}
    (h : InStep s t r r') (hr : Runs p s r) (hr' : Runs p t r')
    (hx : s.store.get? x = t.store.get? x) : r.state.store.get? x = r'.state.store.get? x := by
  -- Equal reads are not enough, since an unbound name reads as zero. An assigned name is bound in
  -- both.
  by_cases hmem : x ∈ r.assigned
  · have hmem' : x ∈ r'.assigned := h.assigned_eq ▸ hmem
    have hread := h.moved.reads x (.inr hmem)
    exact Store.get?_eq_of_read_eq hread (hr.isSome_get? (.inr hmem)) (hr'.isSome_get? (.inr hmem'))
  · have hmem' : x ∉ r'.assigned := h.assigned_eq ▸ hmem
    rw [hr.get?_of_not_mem_assigned hmem, hr'.get?_of_not_mem_assigned hmem', hx]

theorem Runs.output_of_not_prints {p : Program} {state : State} {r : Run} (h : Runs p state r)
    (hp : p.prints = false) : r.state.output = state.output := by
  obtain ⟨trail, rest, htrail, -, hpassed⟩ := h.exists_trail_passed
  obtain ⟨lines, hlines, hall⟩ := htrail.exists_lines
  have hnone : trail.filter (fun place => place.1.isPrint) = [] := by
    rw [List.filter_eq_nil_iff]
    intro place hplace hprint
    have hmem : place.1 ∈ p.statements :=
      h.passed_sublist.subset (hpassed ▸ List.mem_map_of_mem hplace)
    exact List.any_eq_false.mp hp place.1 hmem hprint
  rw [hnone, List.forall₂_nil_left_iff, Array.toList_eq_nil_iff] at hall
  rw [hlines, hall, Array.append_empty]

theorem Program.state_run_append {p q : Program} {state : State}
    (he : (p.run state).error? = none) :
    (Program.run (p ++ q) state).state = (q.run (p.run state).state).state := by
  rw [Program.run_append, Run.andThen_eq_after he, Run.state_after]

namespace Program.Independent

variable {p q : Program} {state : State} {x : String}

theorem symm (h : p.Independent q) : q.Independent p :=
  ⟨h.reads_left, fun x hq hp => h.targets x hp hq, h.reads_right, fun both => h.prints both.symm⟩

/-- The second program goes through the same statements as if the first had not run. -/
theorem inStep (h : p.Independent q) (state : State) :
    Run.InStep state (p.run state).state (q.run state) (q.run (p.run state).state) := by
  have hreads : ∀ x ∈ q.reads, state.store.read x = (p.run state).state.store.read x := by
    intro x hx
    have hframe := (p.runs state).get?_of_not_mem_targets fun htarget => h.reads_right x htarget hx
    rw [Store.read, Store.read, hframe]
  obtain ⟨r, hr, hstep⟩ := (q.runs state).inStep hreads
  rwa [hr.run_eq]

theorem error?_append_eq_none_iff (h : p.Independent q) (state : State) :
    (Program.run (p ++ q) state).error? = none ↔
      (p.run state).error? = none ∧ (q.run state).error? = none := by
  rw [Program.run_append, (h.inStep state).error]
  cases he : (p.run state).error? with
  | none =>
    rw [Run.andThen_eq_after he, Run.error?_after]
    simp only [true_and]
  | some e =>
    rw [Run.andThen_of_error he, he]
    exact iff_of_false nofun nofun

/-- Every name has the binding that the program which may assign it leaves when it runs alone. -/
theorem get?_append (h : p.Independent q) (he : (p.run state).error? = none) :
    (Program.run (p ++ q) state).state.store.get? x =
      if x ∈ q.targets then (q.run state).state.store.get? x
      else (p.run state).state.store.get? x := by
  rw [state_run_append he]
  -- The first program left a name that the second may assign as it was.
  by_cases hx : x ∈ q.targets
  · have hframe := (p.runs state).get?_of_not_mem_targets fun htarget => h.targets x htarget hx
    rw [if_pos hx]
    exact ((h.inStep state).get?_eq (q.runs _) (q.runs _) hframe.symm).symm
  · rw [if_neg hx]
    exact (q.runs _).get?_of_not_mem_targets hx

theorem store_append_comm (h : p.Independent q) (hp : (p.run state).error? = none)
    (hq : (q.run state).error? = none) :
    (Program.run (p ++ q) state).state.store = (Program.run (q ++ p) state).state.store := by
  ext1 x
  rw [h.get?_append hp, h.symm.get?_append hq]
  by_cases hxq : x ∈ q.targets
  · have hxp : x ∉ p.targets := fun htarget => h.targets x htarget hxq
    rw [if_pos hxq, if_neg hxp]
  · rw [if_neg hxq]
    by_cases hxp : x ∈ p.targets
    · rw [if_pos hxp]
    · rw [if_neg hxp, (p.runs state).get?_of_not_mem_targets hxp,
        (q.runs state).get?_of_not_mem_targets hxq]

/-- Where the first program prints nothing, the output is that of the second alone. -/
theorem output_append_of_left (h : p.Independent q) (he : (p.run state).error? = none)
    (hp : p.prints = false) :
    (Program.run (p ++ q) state).state.output = (q.run state).state.output := by
  obtain ⟨lines, halone, hafter⟩ := (h.inStep state).moved.lines
  rw [state_run_append he, hafter, halone, (p.runs state).output_of_not_prints hp]

theorem output_append_of_right (he : (p.run state).error? = none) (hq : q.prints = false) :
    (Program.run (p ++ q) state).state.output = (p.run state).state.output := by
  rw [state_run_append he, (q.runs _).output_of_not_prints hq]

theorem output_append_comm (h : p.Independent q) (hp : (p.run state).error? = none)
    (hq : (q.run state).error? = none) :
    (Program.run (p ++ q) state).state.output = (Program.run (q ++ p) state).state.output := by
  cases hprints : p.prints with
  | false => rw [h.output_append_of_left hp hprints, output_append_of_right hq hprints]
  | true =>
    have hsilent : q.prints = false := by
      rw [← Bool.not_eq_true]
      exact fun hq => h.prints ⟨hprints, hq⟩
    rw [output_append_of_right hp hsilent, h.symm.output_append_of_left hq hsilent]

end Program.Independent

/-- Independent programs run in either order: from every state both orders succeed or neither does,
and if they succeed they leave the same variables and the same output. -/
theorem Program.run_append_comm_of_independent {p q : Program} (h : p.Independent q)
    (state : State) :
    ((Program.run (p ++ q) state).succeeded ↔ (Program.run (q ++ p) state).succeeded) ∧
    ((Program.run (p ++ q) state).succeeded →
      (Program.run (p ++ q) state).state.store = (Program.run (q ++ p) state).state.store ∧
      (Program.run (p ++ q) state).state.output = (Program.run (q ++ p) state).state.output) := by
  simp only [Run.succeeded, Option.isNone_iff_eq_none]
  rw [h.error?_append_eq_none_iff, h.symm.error?_append_eq_none_iff]
  refine ⟨and_comm, ?_⟩
  rintro ⟨hp, hq⟩
  exact ⟨h.store_append_comm hp hq, h.output_append_comm hp hq⟩

/-- One program assigns in a branch, by a name that the other only reads too, and the other
prints. -/
theorem Program.run_append_comm_of_independent_of_branch :
    let p : Program := [.cond (.binary (.var "n" 1) .less (.literal (.int 3) 1) 1)
      [.assign "x" (.binary (.var "x" 2) .add (.var "n" 2) 2) 2] 1]
    let q : Program := [.print (.var "n" 3) 3, .assign "y" (.var "n" 4) 4]
    let state : State := ⟨Store.empty.insert "n" (.int 2), #[]⟩
    p.Independent q ∧ (Program.run (p ++ q) state).succeeded ∧
    (Program.run (q ++ p) state).succeeded ∧
    (Program.run (p ++ q) state).state.store = (Program.run (q ++ p) state).state.store ∧
    (Program.run (p ++ q) state).state.output = (Program.run (q ++ p) state).state.output := by
  intro p q state
  have hindependent : p.Independent q := by
    constructor <;> decide
  have hsucceeded : (Program.run (p ++ q) state).succeeded := by decide
  obtain ⟨hiff, heffects⟩ := Program.run_append_comm_of_independent hindependent state
  exact ⟨hindependent, hsucceeded, hiff.mp hsucceeded, heffects hsucceeded⟩

end Scriptlet
