import Scriptlet.Proofs.Grammar.Programs

/-!
How far the readers go. A reader takes a phrase of its level and stops where no token follows that
the phrase could go on with. For expressions this is the condition under which a phrase is read at
all (`reader_yields_iff`); a body in braces closes itself. `readers_take_maximal_phrases` puts the
levels together and adds that the tokens left matter through that condition only.
-/
namespace Scriptlet.Grammar
open Parse

variable {ts rest c : List Located} {e : Expr} {s : Stmt} {p : Program} {level : Level}

/-- The first token, when there is one, carries no operator of the level. -/
def ClosedTo (level : Level) (rest : List Located) : Prop :=
  ∀ t after, rest = t :: after → ∀ op ∈ level.operators, ¬Carries t.token op

/-- The tokens after a phrase `c` of the level do not go on with it. A sum that was not compared yet
could go on with a comparison, and one that was could not. -/
def Maximal (c rest : List Located) : Level → Prop
  | .primary | .signed => True
  | .product => ClosedTo .product rest
  | .sum => ClosedTo .product rest ∧ ClosedTo .sum rest
  | .comparison => ClosedTo .product rest ∧ ClosedTo .sum rest ∧
      ((∃ e, Derives .sum c e) → ClosedTo .comparison rest)

/-- The tokens after a statement do not go on with the expression at its end, which in a `print`
starts after the keyword and in an assignment after its sign. -/
def MaximalStmt (c rest : List Located) : Stmt → Prop
  | .print .. => Maximal (c.drop 1) rest .comparison
  | .assign .. => Maximal (c.drop 2) rest .comparison
  | .cond .. => True

/-- Statements in braces. -/
def DerivesBlock (c : List Located) (body : Program) : Prop :=
  ∃ opening us closing, c = ⟨.leftBrace, opening⟩ :: us ++ [⟨.rightBrace, closing⟩] ∧
    DerivesProgram us body

theorem closedTo_iff {family : Operator → Bool}
    (h : ∀ op, op ∈ level.operators ↔ family op = true) :
    ClosedTo level rest ↔ Opens family rest = false := by
  rw [← Bool.not_eq_true, opens_eq_true_iff]
  constructor
  · rintro hclosed ⟨t, line, op, inner, rfl, ht, hop⟩
    exact hclosed _ _ rfl op ((h op).mpr hop) (carries_iff.mpr ht)
  · intro hopen t after hrest op hop ht
    exact hopen ⟨t.token, t.line, op, after, hrest, carries_iff.mp ht, (h op).mp hop⟩

theorem closedTo_product_iff :
    ClosedTo .product rest ↔ Opens Operator.isMultiplicative rest = false :=
  closedTo_iff fun _ => mem_product_operators

theorem closedTo_sum_iff : ClosedTo .sum rest ↔ Opens Operator.isAdditive rest = false :=
  closedTo_iff fun _ => mem_sum_operators

theorem closedTo_comparison_iff :
    ClosedTo .comparison rest ↔ Opens Operator.isComparison rest = false :=
  closedTo_iff fun _ => mem_comparison_operators

theorem yields_unique {α : Type} {n : Nat} {r : Reply α n} {a b : α} {left right : List Located}
    (h : r.Yields a left) (h' : r.Yields b right) : a = b ∧ left = right :=
  ⟨Except.ok.inj (h.1.symm.trans h'.1), h.2.symm.trans h'.2⟩

theorem closedTo_of_product (h : (product ts).Yields e rest) : ClosedTo .product rest := by
  obtain ⟨first, mid, hfirst, hloop⟩ := product_yields_iff.mp h
  have hend := product_loop.invariant (P := fun _ _ => True)
    (fun _ _ _ _ _ _ _ _ _ _ _ _ => trivial) (Nat.le_refl _) trivial hloop
  exact closedTo_product_iff.mpr hend.2

theorem closedTo_of_sum (h : (Parse.sum ts).Yields e rest) :
    ClosedTo .product rest ∧ ClosedTo .sum rest := by
  obtain ⟨first, mid, hfirst, hloop⟩ := sum_yields_iff.mp h
  have hend := sum_loop.invariant (P := fun _ after => ClosedTo .product after)
    (fun _ _ _ _ _ _ _ _ _ _ _ hpart => closedTo_of_product hpart) (Nat.le_refl _)
    (closedTo_of_product hfirst) hloop
  exact ⟨hend.1, closedTo_sum_iff.mpr hend.2⟩

/-- Where a comparison operator was read, the phrase is no bare sum: the reader of sums stops at
that operator, and a phrase of its level it would have read to the end. -/
theorem maximal_of_comparison (h : (comparison (c ++ rest)).Yields e rest) :
    Maximal c rest .comparison := by
  obtain ⟨first, mid, hfirst, hmid⟩ := comparison_yields_iff.mp h
  cases hopen : Opens Operator.isComparison mid with
  | false =>
    obtain ⟨rfl, rfl⟩ := (comparisonFrom_yields_of_not_opens hopen).mp hmid
    obtain ⟨hproduct, hsum⟩ := closedTo_of_sum hfirst
    exact ⟨hproduct, hsum, fun _ => closedTo_comparison_iff.mpr hopen⟩
  | true =>
    obtain ⟨t, line, op, inner, rfl, ht, hop⟩ := opens_eq_true_iff.mp hopen
    obtain ⟨right, hright, rfl⟩ := (comparisonFrom_yields_of_opens line ht hop).mp hmid
    obtain ⟨hproduct, hsum⟩ := closedTo_of_sum hright
    refine ⟨hproduct, hsum, ?_⟩
    rintro ⟨bare, hbare⟩
    have hread : (Parse.sum (c ++ rest)).Yields bare rest := (resumes_of_derives hbare).sum_yields
      (closedTo_product_iff.mp hproduct) (closedTo_sum_iff.mp hsum)
    have hrest : ⟨t, line⟩ :: inner = rest := (yields_unique hfirst hread).2
    have hlt := hright.length_lt
    rw [← hrest, List.length_cons] at hlt
    omega

theorem maximal_of_yields (h : (reader level (c ++ rest)).Yields e rest) :
    Maximal c rest level := by
  cases level with
  | comparison => exact maximal_of_comparison h
  | sum => exact closedTo_of_sum h
  | product => exact closedTo_of_product h
  | signed | primary => trivial

theorem yields_of_maximal (h : Derives level c e) (hrest : Maximal c rest level) :
    (reader level (c ++ rest)).Yields e rest := by
  have hresumes := resumes_of_derives h
  cases level with
  | comparison =>
    obtain ⟨hproduct, hsum, hcomparison⟩ := hrest
    exact hresumes rest ⟨closedTo_product_iff.mp hproduct, closedTo_sum_iff.mp hsum,
      fun hbare => closedTo_comparison_iff.mp (hcomparison hbare)⟩
  | sum => exact hresumes.sum_yields (closedTo_product_iff.mp hrest.1) (closedTo_sum_iff.mp hrest.2)
  | product => exact hresumes.product_yields (closedTo_product_iff.mp hrest)
  | signed | primary => exact hresumes rest

/-- A reader of expressions takes just the phrases of its level that nothing goes on with. -/
theorem reader_yields_iff : (reader level ts).Yields e rest ↔
    ∃ c, ts = c ++ rest ∧ Derives level c e ∧ Maximal c rest level := by
  constructor
  · intro h
    obtain ⟨c, rfl, hc⟩ := split_of_yields h
    exact ⟨c, rfl, hc, maximal_of_yields h⟩
  · rintro ⟨c, rfl, hc, hrest⟩
    exact yields_of_maximal hc hrest

theorem expression_yields_iff : (expression ts).Yields e rest ↔
    ∃ c, ts = c ++ rest ∧ Derives .comparison c e ∧ Maximal c rest .comparison :=
  @reader_yields_iff ts rest e .comparison

theorem block_yields_iff_derives : (block ts).Yields p rest ↔
    ∃ c, ts = c ++ rest ∧ DerivesBlock c p := by
  rw [block_yields_iff]
  constructor
  · rintro ⟨opening, inner, rfl, h⟩
    obtain ⟨us, closing, rfl, hus⟩ := splitBody_of_blockFrom h
    exact ⟨_, by simp, opening, us, closing, rfl, hus⟩
  · rintro ⟨_, rfl, opening, us, closing, rfl, hus⟩
    exact ⟨opening, us ++ ⟨.rightBrace, closing⟩ :: rest, by simp, blockFrom_yields hus⟩

theorem statement_yields_iff_derives : (statement ts).Yields s rest ↔
    ∃ c, ts = c ++ rest ∧ DerivesStmt c s ∧ MaximalStmt c rest s := by
  rw [statement_yields_iff]
  constructor
  · rintro (⟨line, inner, e, rfl, he, rfl⟩ | ⟨line, inner, e, mid, body, rfl, he, hblock, rfl⟩ |
      ⟨x, line, sign, inner, e, rfl, he, rfl⟩)
    · obtain ⟨c, rfl, hc, hrest⟩ := expression_yields_iff.mp he
      exact ⟨_, rfl, .print line hc, hrest⟩
    · obtain ⟨c, rfl, hc, -⟩ := expression_yields_iff.mp he
      obtain ⟨_, rfl, opening, us, closing, rfl, hus⟩ := block_yields_iff_derives.mp hblock
      exact ⟨_, by simp, .cond line opening closing hc hus, trivial⟩
    · obtain ⟨c, rfl, hc, hrest⟩ := expression_yields_iff.mp he
      exact ⟨_, rfl, .assign x line sign hc, hrest⟩
  · rintro ⟨c, rfl, hc, hrest⟩
    cases hc with
    | print line he =>
      exact .inl ⟨line, _, _, rfl, expression_yields_iff.mpr ⟨_, rfl, he, hrest⟩, rfl⟩
    | @cond ts us e body line opening closing he hbody =>
      have hblock : (block (⟨.leftBrace, opening⟩ :: us ++ [⟨.rightBrace, closing⟩] ++ rest)).Yields
          body rest := block_yields_iff_derives.mpr ⟨_, rfl, opening, us, closing, rfl, hbody⟩
      exact .inr (.inl ⟨line, _, e, _, body, by simp, expression_yields he rfl, hblock, rfl⟩)
    | assign x line sign he =>
      have hvalue := expression_yields_iff.mpr ⟨_, rfl, he, hrest⟩
      exact .inr (.inr ⟨x, line, sign, _, _, rfl, hvalue, rfl⟩)

/-- Where reading is cutting a phrase off that what is left lets stand, other tokens after the same
phrase matter through nothing else. -/
theorem append_iff_of_cut {reads : List Located → List Located → Prop}
    {phrase : List Located → Prop} {stands : List Located → List Located → Prop}
    (hreads : ∀ ts rest, reads ts rest ↔ ∃ c, ts = c ++ rest ∧ phrase c ∧ stands c rest)
    (h : reads (c ++ rest) rest) (other : List Located) :
    reads (c ++ other) other ↔ stands c other := by
  obtain ⟨d, hd, hphrase, -⟩ := (hreads _ _).mp h
  cases List.append_cancel_right hd
  rw [hreads]
  constructor
  · rintro ⟨d, hd, -, hstands⟩
    cases List.append_cancel_right hd
    exact hstands
  · intro hstands
    exact ⟨c, rfl, hphrase, hstands⟩

/-- Every reader takes exactly the phrases of its level that nothing goes on with: a product is not
followed by `*` or `/`, a sum neither by these nor by `+` or `-`, a comparison neither by these nor,
as long as it is a bare sum, by a comparison operator. A `print` and an assignment end as their
expression does, while a body in braces, and with it an `if`, may be followed by anything. So of the
tokens left only the first matters, and only through whether it goes on with the phrase. -/
theorem readers_take_maximal_phrases :
    (∀ level ts e rest, (reader level ts).Yields e rest ↔
      ∃ c, ts = c ++ rest ∧ Derives level c e ∧ Maximal c rest level) ∧
    (∀ ts s rest, (statement ts).Yields s rest ↔
      ∃ c, ts = c ++ rest ∧ DerivesStmt c s ∧ MaximalStmt c rest s) ∧
    (∀ ts p rest, (block ts).Yields p rest ↔ ∃ c, ts = c ++ rest ∧ DerivesBlock c p) ∧
    (∀ level c e rest other, (reader level (c ++ rest)).Yields e rest →
      ((reader level (c ++ other)).Yields e other ↔ Maximal c other level)) ∧
    (∀ c s rest other, (statement (c ++ rest)).Yields s rest →
      ((statement (c ++ other)).Yields s other ↔ MaximalStmt c other s)) ∧
    ∀ c p rest other, (block (c ++ rest)).Yields p rest → (block (c ++ other)).Yields p other := by
  refine ⟨fun _ _ _ _ => reader_yields_iff, fun _ _ _ => statement_yields_iff_derives,
    fun _ _ _ => block_yields_iff_derives, ?_, ?_, ?_⟩
  · intro level c e rest other h
    exact append_iff_of_cut (fun _ _ => reader_yields_iff) h other
  · intro c s rest other h
    exact append_iff_of_cut (fun _ _ => statement_yields_iff_derives) h other
  · intro c p rest other h
    have hcut : ∀ ts rest, (block ts).Yields p rest ↔
        ∃ c, ts = c ++ rest ∧ DerivesBlock c p ∧ True := by simp [block_yields_iff_derives]
    exact (append_iff_of_cut hcut h other).mpr trivial

end Scriptlet.Grammar
