import Scriptlet.Proofs.Grammar.Programs
import Scriptlet.Proofs.Grammar.Writing
import Scriptlet.Proofs.Run.Errors
import Scriptlet.Proofs.Run.Steps
import Scriptlet.Proofs.Script.Failure

/-!
Double quotes. No literal that a script spells out holds one, only joining two texts makes a text
that was not there before, and no step of a run brings a quote into the state (`Step.quoteFree`). So
a script shows a quote only where it fails to close one (`quote_shown_iff_unclosed`).
-/
namespace Scriptlet

/-- No double quote stands in the value. -/
def Value.QuoteFree : Value → Prop
  | text s => '"' ∉ s.toList
  | int _ | bool _ => True

/-- No double quote stands in a value of the store. -/
def Store.QuoteFree (s : Store) : Prop :=
  ∀ x v, s.get? x = some v → v.QuoteFree

namespace Store.QuoteFree

variable {s : Store}

theorem empty : Store.empty.QuoteFree := by
  intro x v h
  rw [Store.get?_empty] at h
  cases h

theorem read (h : s.QuoteFree) (x : String) : (s.read x).QuoteFree := by
  unfold Store.read
  cases hx : s.get? x with
  | none => trivial
  | some v => exact h x v hx

theorem insert (h : s.QuoteFree) (x : String) {v : Value} (hv : v.QuoteFree) :
    (s.insert x v).QuoteFree := by
  intro y w hw
  rw [Store.get?_insert] at hw
  split at hw
  · cases hw
    exact hv
  · exact h y w hw

end Store.QuoteFree

namespace Value

variable {op : Operator} {a b v : Value} {s : String}

theorem QuoteFree.display (h : v.QuoteFree) : '"' ∉ v.display.toList := by
  cases v with
  | int n => exact (Text.plain_repr_int n.toInt).not_mem rfl
  | text s => exact h
  | bool b => cases b <;> decide

/-- A text that an operator gives is joined from its operands. -/
theorem exists_texts_of_apply (h : apply op a b = .ok (.text s)) :
    ∃ t u, a = .text t ∧ b = .text u ∧ s = t ++ u := by
  unfold apply at h
  split at h
  · -- A comparison gives a truth value.
    unfold relate at h
    split at h
    · rename_i order _
      cases hholds : op.holds? order <;> simp [hholds] at h
    · split at h <;> cases h
  · unfold calculate at h
    split at h
    · obtain ⟨n, -, hn⟩ := Outcome.map_eq_ok_iff.mp h
      cases hn
    · split at h
      · cases h
        exact ⟨_, _, rfl, rfl, rfl⟩
      · cases h
    · cases h

theorem QuoteFree.of_apply (ha : a.QuoteFree) (hb : b.QuoteFree) (h : apply op a b = .ok v) :
    v.QuoteFree := by
  cases v with
  | int n | bool x => trivial
  | text s =>
    obtain ⟨t, u, rfl, rfl, rfl⟩ := exists_texts_of_apply h
    show '"' ∉ (t ++ u).toList
    rw [String.toList_append, List.mem_append]
    exact not_or.mpr ⟨ha, hb⟩

theorem QuoteFree.of_negate (h : a.negate = .ok v) : v.QuoteFree := by
  cases a with
  | int n =>
    obtain ⟨m, -, rfl⟩ := Outcome.map_eq_ok_iff.mp h
    trivial
  | text s | bool x => cases h

end Value

theorem Expr.Writable.quoteFree_eval {e : Expr} {store : Store} {v : Value} (he : e.Writable)
    (hstore : store.QuoteFree) (h : e.eval store = .ok v) : v.QuoteFree := by
  induction e generalizing v with
  | literal value line =>
    cases h
    cases value with
    | int n => trivial
    | text s => exact he
  | var name line =>
    cases h
    exact hstore.read name
  | negate operand line ih =>
    obtain ⟨a, -, h⟩ := Outcome.bind_eq_ok_iff.mp h
    exact .of_negate (located_eq_ok_iff.mp h)
  | binary left op right line ihl ihr =>
    obtain ⟨a, ha, h⟩ := Outcome.bind_eq_ok_iff.mp h
    obtain ⟨b, hb, h⟩ := Outcome.bind_eq_ok_iff.mp h
    exact .of_apply (ihl he.1 ha) (ihr he.2 hb) (located_eq_ok_iff.mp h)

theorem Program.writable_append {p q : Program} :
    Program.Writable (p ++ q) ↔ p.Writable ∧ q.Writable := by
  induction p with
  | nil => simp [Program.Writable]
  | cons s p ih => simp only [List.cons_append, Program.Writable, ih, and_assoc]

/-- No double quote stands in a text of the store or in a line of the output. -/
structure State.QuoteFree (s : State) : Prop where
  store : s.store.QuoteFree
  output : ∀ line ∈ s.output, '"' ∉ line.toList

namespace State.QuoteFree

variable {s : State} {v : Value}

theorem initial : State.initial.QuoteFree :=
  ⟨.empty, by simp [State.initial]⟩

theorem print (h : s.QuoteFree) (hv : v.QuoteFree) : (s.print v).QuoteFree := by
  refine ⟨h.store, fun line hline => ?_⟩
  rw [State.output_print, Array.mem_push] at hline
  obtain hline | rfl := hline
  · exact h.output line hline
  · exact hv.display

theorem assign (h : s.QuoteFree) (x : String) (hv : v.QuoteFree) : (s.assign x v).QuoteFree :=
  ⟨h.store.insert x hv, h.output⟩

end State.QuoteFree

/-- A step of statements that a script can spell keeps quotes out of the state. -/
theorem Step.quoteFree {c d : Program × State} (h : Step c d) (hp : c.1.Writable)
    (hs : c.2.QuoteFree) : d.1.Writable ∧ d.2.QuoteFree := by
  cases h with
  | print hv => exact ⟨hp.2, hs.print (Expr.Writable.quoteFree_eval hp.1 hs.store hv)⟩
  | assign hv => exact ⟨hp.2, hs.assign _ (Expr.Writable.quoteFree_eval hp.1.2 hs.store hv)⟩
  | skip _ _ => exact ⟨hp.2, hs⟩
  | enter _ _ => exact ⟨Program.writable_append.mpr ⟨hp.1.2, hp.2⟩, hs⟩

theorem Steps.quoteFree {c d : Program × State} (h : Steps c d) (hp : c.1.Writable)
    (hs : c.2.QuoteFree) : d.1.Writable ∧ d.2.QuoteFree := by
  induction h with
  | refl => exact ⟨hp, hs⟩
  | tail _ hstep ih => exact hstep.quoteFree ih.1 ih.2

namespace Script

open Token (scan)
open Lexical (Cut)

variable {source : String} {tokens : List Located} {p : Program}

/-- No state that the run of a script comes through holds a quote. -/
theorem quoteFree_of_steps (h : scan source = .ok tokens) (hp : Parse.program tokens = .ok p)
    {rest : Program} {state : State} (hsteps : Steps (p, .initial) (rest, state)) :
    state.QuoteFree := by
  have hwritable : p.Writable :=
    (Grammar.derives_of_program hp).writable (Lexical.scannable_of_scan h)
  exact (hsteps.quoteFree hwritable .initial).2

theorem quoteFree_run (h : scan source = .ok tokens) (hp : Parse.program tokens = .ok p) :
    (p.run .initial).state.QuoteFree := by
  obtain ⟨rest, hsteps, -⟩ := (p.runs .initial).exists_steps
  exact quoteFree_of_steps h hp hsteps

/-- What a script prints holds no quote. -/
theorem quote_not_mem_of_success {text : String} (h : output source = .ok text) :
    '"' ∉ text.toList := by
  obtain ⟨tokens, p, hscan, hp, rfl⟩ := exists_lines_of_output h
  have hlines := (quoteFree_run hscan hp).output
  refine Text.not_mem_intercalate (by decide) fun line hline => ?_
  exact hlines line (Array.mem_toList_iff.mp hline)

theorem quote_mem_text_iff : '"' ∈ (execute source).text.toList ↔
    ∃ line, scan source = .error (.unexpectedCharacter '"' line) := by
  constructor
  · intro hmem
    cases hout : output source with
    | ok text =>
      rw [text_of_success hout] at hmem
      exact absurd hmem (quote_not_mem_of_success hout)
    | error e => exact (mem_text_of_failure hout hmem).resolve_left (by decide)
  · rintro ⟨line, hscan⟩
    have hout : output source = .error (.lex (.unexpectedCharacter '"' line)) := by
      rw [output, execute_of_lexError hscan]
      rfl
    rw [text_of_failure hout, String.toList_append]
    exact List.mem_append_right _ (LexError.found_mem_message '"' line)

/-- A script shows a double quote just when it cannot be cut into tokens because of a text that is
opened and never closed. While a script runs, no text in its store and no line of its output holds a
quote, in any state it comes through or ends in. -/
theorem quote_shown_iff_unclosed (source : String) :
    ('"' ∈ (execute source).text.toList ↔
      ∃ line, scan source = .error (.unexpectedCharacter '"' line)) ∧
    ((∃ line, scan source = .error (.unexpectedCharacter '"' line)) ↔
      ∃ pieces rest, Cut source.toList pieces ('"' :: rest) ∧ '"' ∉ rest) ∧
    ∀ tokens p, scan source = .ok tokens → Parse.program tokens = .ok p →
      (p.run .initial).state.QuoteFree ∧
      ∀ rest state, Steps (p, .initial) (rest, state) → state.QuoteFree :=
  ⟨quote_mem_text_iff, Lexical.unexpected_quote_iff,
    fun _ _ h hp => ⟨quoteFree_run h hp, fun _ _ => quoteFree_of_steps h hp⟩⟩

/-- Two texts in quotes are joined and printed without any. -/
theorem quote_shown_iff_unclosed_of_join :
    let p : Program := [.print (.binary (.literal (.text "a") 1) .add (.literal (.text "b") 1) 1) 1]
    scan "print \"a\" + \"b\"" =
      .ok [⟨.print, 1⟩, ⟨.text "a", 1⟩, ⟨.op .add, 1⟩, ⟨.text "b", 1⟩] ∧
    (p.run .initial).state.output = #["ab"] ∧ (p.run .initial).state.QuoteFree := by
  intro p
  have hscan : scan "print \"a\" + \"b\"" =
      .ok [⟨.print, 1⟩, ⟨.text "a", 1⟩, ⟨.op .add, 1⟩, ⟨.text "b", 1⟩] := by
    with_unfolding_all rfl
  have hp : Parse.program [⟨.print, 1⟩, ⟨.text "a", 1⟩, ⟨.op .add, 1⟩, ⟨.text "b", 1⟩] = .ok p := by
    cbv
  obtain ⟨-, -, hruns⟩ := quote_shown_iff_unclosed "print \"a\" + \"b\""
  exact ⟨hscan, by decide, (hruns _ p hscan hp).1⟩

end Script

end Scriptlet
