import Scriptlet.Proofs.Grammar.Lines
import Scriptlet.Proofs.Lexical.Spelling

/-!
Written programs in the grammar. The parentheses of a written expression are enough for its tokens
to derive it at the level it binds at, and a derivation from tokens that a scan can return is that
of a writable program.
-/
namespace Scriptlet.Grammar
open Parse

variable {ts us : List Located} {e : Expr}

/-- How tightly the phrases of a level bind. -/
def Level.strength : Level → Nat
  | comparison => 0
  | sum => 1
  | product => 2
  | signed => 3
  | primary => 4

/-- A phrase is also one of every level that binds more loosely. -/
theorem Derives.loosen {level target : Level} (h : Derives level ts e)
    (hle : target.strength ≤ level.strength) : Derives target ts e := by
  have hsigned : 3 ≤ level.strength → Derives .signed ts e := by
    intro hs
    cases level with
    | primary => exact h.operand
    | signed => exact h
    | comparison | sum | product => exact absurd hs (by decide)
  have hproduct : 2 ≤ level.strength → Derives .product ts e := by
    intro hs
    cases level with
    | primary | signed => exact (hsigned (by decide)).factor
    | product => exact h
    | comparison | sum => exact absurd hs (by decide)
  have hsum : 1 ≤ level.strength → Derives .sum ts e := by
    intro hs
    cases level with
    | primary | signed | product => exact (hproduct (by decide)).term
    | sum => exact h
    | comparison => exact absurd hs (by decide)
  cases target with
  | comparison =>
    cases level with
    | primary | signed | product | sum => exact (hsum (by decide)).side
    | comparison => exact h
  | sum => exact hsum hle
  | product => exact hproduct hle
  | signed => exact hsigned hle
  | primary =>
    cases level with
    | primary => exact h
    | comparison | sum | product | signed => exact absurd hle (by decide)

/-- The level of the phrases that the operator joins to. -/
def opLevel (op : Operator) : Level :=
  if op.isComparison then .comparison else if op.isAdditive then .sum else .product

/-- The levels of the phrases that stand to its left and to its right. -/
def leftLevel (op : Operator) : Level :=
  if op.isMultiplicative then .product else .sum

def rightLevel (op : Operator) : Level :=
  if op.isMultiplicative then .signed else if op.isAdditive then .product else .sum

theorem Derives.join {l r : Expr} {t : Token} {op : Operator} (line : Nat)
    (hl : Derives (leftLevel op) ts l) (ht : Carries t op) (hr : Derives (rightLevel op) us r) :
    Derives (opLevel op) (ts ++ ⟨t, line⟩ :: us) (.binary l op r line) := by
  cases op with
  | add | sub => exact .added line hl ht (by decide) hr
  | mul | div => exact .multiplied line hl ht (by decide) hr
  | less | greater | lessEqual | greaterEqual | equal =>
    exact .compared line hl ht (by decide) hr

/-- The level of the phrase that an expression is written as. -/
def exprLevel : Expr → Level
  | .literal .. | .var .. => .primary
  | .negate .. => .signed
  | .binary _ op _ _ => opLevel op

/-- The tokens all on one line. -/
def placed (ts : List Token) : List Located :=
  ts.map fun t => ⟨t, 0⟩

theorem placed_append (ts us : List Token) : placed (ts ++ us) = placed ts ++ placed us :=
  List.map_append

/-- Parentheses where they are needed make a phrase of any level. -/
theorem derives_enclosed {level target : Level} {ts : List Token} {needed : Bool}
    (h : Derives level (placed ts) e)
    (hloose : needed = false → target.strength ≤ level.strength) :
    Derives target (placed (enclosed needed ts)) e := by
  cases needed with
  | false => exact h.loosen (hloose rfl)
  | true =>
    have hinner : Derives .comparison (placed ts) e := h.loosen (Nat.zero_le _)
    have hparens : Derives target _ e :=
      (hinner.parens 0 0).loosen (by cases target <;> decide)
    rw [enclosed, if_pos rfl, placed_append]
    exact hparens

theorem signed_strength_le {e : Expr} (h : e.operator?.isSome = false) :
    Level.signed.strength ≤ (exprLevel e).strength := by
  cases e with
  | literal | var => exact Nat.le_succ 3
  | negate => exact Nat.le_refl 3
  | binary => cases h

/-- An operand without parentheses is a phrase of the level that its place asks for, if the
operators that go without them there are. -/
theorem strength_operand {target : Level} {needs : Operator → Bool} {e : Expr}
    (hsigned : target.strength ≤ Level.signed.strength)
    (hneeds : ∀ op, needs op = false → target.strength ≤ (opLevel op).strength)
    (h : e.operator?.any needs = false) : target.strength ≤ (exprLevel e).strength := by
  cases e with
  | literal | var | negate => exact Nat.le_trans hsigned (signed_strength_le rfl)
  | binary _ op _ _ => exact hneeds op h

theorem strength_left {op : Operator} {l : Expr} :
    l.operator?.any op.enclosesLeft = false →
      (leftLevel op).strength ≤ (exprLevel l).strength := by
  refine strength_operand (by cases op <;> decide) fun inner => ?_
  cases op <;> cases inner <;> decide

theorem strength_right {op : Operator} {r : Expr} :
    r.operator?.any op.enclosesRight = false →
      (rightLevel op).strength ≤ (exprLevel r).strength := by
  refine strength_operand (by cases op <;> decide) fun inner => ?_
  cases op <;> cases inner <;> decide

theorem carries_token (op : Operator) : Carries op.token op := by
  unfold Operator.token
  split
  · exact .inr rfl
  · exact .inl rfl

/-- The tokens of an expression derive it. -/
theorem derives_tokens (e : Expr) :
    Derives (exprLevel e) (placed e.tokens) (e.mapLines fun _ => 0) := by
  induction e with
  | literal value line =>
    cases value with
    | int n => exact .number n 0
    | text s => exact .text s 0
  | var name line => exact .name name 0
  | negate operand line ih => exact .minus 0 (derives_enclosed ih signed_strength_le)
  | binary left op right line ihl ihr =>
    rw [Expr.tokens, placed_append]
    exact .join 0 (derives_enclosed ihl strength_left) (carries_token op)
      (derives_enclosed ihr strength_right)

theorem derivesProgram_tokens_of_forall {p : Program}
    (h : ∀ s ∈ p, DerivesStmt (placed s.tokens) (s.mapLines fun _ => 0)) :
    DerivesProgram (placed p.tokens) (p.mapLines fun _ => 0) := by
  induction p with
  | nil => exact .nil
  | cons s p ih =>
    rw [Program.tokens, placed_append]
    exact .cons (h s List.mem_cons_self) (ih fun t ht => h t (List.mem_cons_of_mem s ht))

theorem derivesStmt_tokens (s : Stmt) :
    DerivesStmt (placed s.tokens) (s.mapLines fun _ => 0) := by
  have hexpr : ∀ e : Expr, Derives .comparison (placed e.tokens) (e.mapLines fun _ => 0) :=
    fun e => (derives_tokens e).loosen (Nat.zero_le _)
  induction s using Stmt.ind with
  | print value line => exact .print 0 (hexpr value)
  | assign name value line => exact .assign name 0 0 (hexpr value)
  | cond condition body line ih =>
    rw [Stmt.tokens, placed_append, placed_append]
    exact .cond 0 0 0 (hexpr condition) (derivesProgram_tokens_of_forall ih)

/-- Tokens in the order of a written program are read as that program, whatever their lines. -/
theorem program_of_tokens {p : Program} {ts : List Located}
    (h : ts.map Located.token = p.tokens) :
    ∃ q, program ts = .ok q ∧ q.SameUpToLines p := by
  have hplaced : ts.map (Located.mapLine fun _ => 0) = placed p.tokens := by
    rw [← h, placed, List.map_map]
    rfl
  have hread : program (ts.map (Located.mapLine fun _ => 0)) = .ok (p.mapLines fun _ => 0) := by
    rw [hplaced]
    exact program_eq_ok (derivesProgram_tokens_of_forall fun s _ => derivesStmt_tokens s)
  rw [program_mapLine] at hread
  cases hq : program ts with
  | ok q =>
    rw [hq] at hread
    exact ⟨q, rfl, Except.ok.inj hread⟩
  | error e =>
    rw [hq] at hread
    cases hread

theorem Derives.writable {level : Level} (h : Derives level ts e)
    (hts : ∀ t ∈ ts, t.token.Scannable) : e.Writable := by
  induction h with
  | number n line => exact hts ⟨.number n, line⟩ List.mem_cons_self
  | text s line => exact hts ⟨.text s, line⟩ List.mem_cons_self
  | name x line => exact hts ⟨.name x, line⟩ List.mem_cons_self
  | parens opening closing _ ih => exact ih fun t ht => hts t (by simp [ht])
  | operand _ ih | factor _ ih | term _ ih | side _ ih => exact ih hts
  | minus line _ ih => exact ih fun t ht => hts t (List.mem_cons_of_mem _ ht)
  | multiplied line _ _ _ _ ihl ihr | added line _ _ _ _ ihl ihr
  | compared line _ _ _ _ ihl ihr =>
    exact ⟨ihl fun t ht => hts t (by simp [ht]), ihr fun t ht => hts t (by simp [ht])⟩

mutual

theorem DerivesStmt.writable {ts : List Located} {s : Stmt} (h : DerivesStmt ts s)
    (hts : ∀ t ∈ ts, t.token.Scannable) : s.Writable := by
  cases h with
  | print line he => exact he.writable fun t ht => hts t (List.mem_cons_of_mem _ ht)
  | cond line opening closing he hbody =>
    exact ⟨he.writable fun t ht => hts t (by simp [ht]),
      DerivesProgram.writable hbody fun t ht => hts t (by simp [ht])⟩
  | assign x line sign he =>
    exact ⟨hts ⟨.name x, line⟩ List.mem_cons_self, he.writable fun t ht => hts t (by simp [ht])⟩

theorem DerivesProgram.writable {ts : List Located} {p : Program} (h : DerivesProgram ts p)
    (hts : ∀ t ∈ ts, t.token.Scannable) : p.Writable := by
  cases h with
  | nil => trivial
  | cons hs hp =>
    exact ⟨DerivesStmt.writable hs fun t ht => hts t (List.mem_append_left _ ht),
      DerivesProgram.writable hp fun t ht => hts t (List.mem_append_right _ ht)⟩

end

end Scriptlet.Grammar
