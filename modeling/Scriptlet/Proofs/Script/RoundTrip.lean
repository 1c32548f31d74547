import Scriptlet.Proofs.Grammar.Writing

/-!
Source text and programs. The source that a writable program is written as scans and reads back as
that program, and every program that is read from a source is writable (`source_round_trip`).
-/
namespace Scriptlet

theorem scannable_enclosed {needed : Bool} {ts : List Token} (h : ∀ t ∈ ts, t.Scannable) :
    ∀ t ∈ enclosed needed ts, t.Scannable := by
  cases needed with
  | false => exact h
  | true =>
    intro t ht
    simp only [enclosed, if_true, List.cons_append, List.mem_cons, List.mem_append,
      List.not_mem_nil, or_false] at ht
    obtain rfl | ht | rfl := ht
    · trivial
    · exact h t ht
    · trivial

theorem Operator.scannable_token (op : Operator) : op.token.Scannable := by
  cases op <;> rfl

theorem Expr.Writable.scannable {e : Expr} (h : e.Writable) : ∀ t ∈ e.tokens, t.Scannable := by
  induction e with
  | literal value line =>
    cases value with
    | int n => exact List.forall_mem_singleton.mpr h
    | text s => exact List.forall_mem_singleton.mpr h
  | var name line => exact List.forall_mem_singleton.mpr h
  | negate operand line ih => exact List.forall_mem_cons.mpr ⟨rfl, scannable_enclosed (ih h)⟩
  | binary left op right line ihl ihr =>
    refine List.forall_mem_append.mpr ⟨scannable_enclosed (ihl h.1), ?_⟩
    exact List.forall_mem_cons.mpr ⟨op.scannable_token, scannable_enclosed (ihr h.2)⟩

mutual

theorem Stmt.Writable.scannable {s : Stmt} (h : s.Writable) : ∀ t ∈ s.tokens, t.Scannable := by
  cases s with
  | print value line =>
    exact List.forall_mem_cons.mpr ⟨trivial, Expr.Writable.scannable h⟩
  | assign name value line =>
    refine List.forall_mem_cons.mpr ⟨h.1, ?_⟩
    exact List.forall_mem_cons.mpr ⟨trivial, Expr.Writable.scannable h.2⟩
  | cond condition body line =>
    rw [Stmt.tokens, List.forall_mem_append, List.forall_mem_append]
    refine ⟨⟨?_, ?_⟩, List.forall_mem_singleton.mpr trivial⟩
    · exact List.forall_mem_cons.mpr ⟨trivial, Expr.Writable.scannable h.1⟩
    · exact List.forall_mem_cons.mpr ⟨trivial, Program.Writable.scannable h.2⟩

theorem Program.Writable.scannable {p : Program} (h : p.Writable) :
    ∀ t ∈ p.tokens, t.Scannable := by
  cases p with
  | nil => simp [Program.tokens]
  | cons s p =>
    exact List.forall_mem_append.mpr ⟨Stmt.Writable.scannable h.1, Program.Writable.scannable h.2⟩

end

namespace Script

open Token (scan scanFrom)

/-- A writable program is read back from its source, up to lines, and only writable programs are
read from sources. -/
theorem source_round_trip :
    (∀ p : Program, p.Writable →
      ∃ ts q, scan p.source = .ok ts ∧ Parse.program ts = .ok q ∧ q.SameUpToLines p) ∧
    ∀ (source : String) (ts : List Located) (p : Program),
      scan source = .ok ts → Parse.program ts = .ok p → p.Writable := by
  constructor
  · intro p hp
    obtain ⟨ts, hscan, htokens⟩ := Lexical.scanFrom_spellings 1 hp.scannable
    obtain ⟨q, hq, hsame⟩ := Grammar.program_of_tokens htokens
    refine ⟨ts, q, ?_, hq, hsame⟩
    rw [scan, Program.source, String.toList_intercalate, List.map_map]
    exact hscan
  · intro source ts p hscan hp
    exact (Grammar.derives_of_program hp).writable (Lexical.scannable_of_scan hscan)

-- Of the two inner differences only the one on the right is in parentheses.
example :
    let p : Program := [.print (.binary (.binary (.var "a" 1) .sub (.var "b" 1) 1) .sub
      (.binary (.literal (.int 1) 1) .sub (.negate (.var "c" 1) 1) 1) 1) 1]
    p.Writable ∧ p.source = "print a - b - ( 1 - - c )" :=
  ⟨by decide, by cbv⟩

end Script

end Scriptlet
