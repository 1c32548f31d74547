import Scriptlet.Proofs.Grammar.Readers
import Scriptlet.Proofs.Grammar.Rules

/-!
The expression readers against the grammar. `split_of_yields` says that what a reader takes is a
phrase of its level, and `resumes_of_derives` that a reader goes through any phrase of its level and
is left where its loop would go on after it.
-/
namespace Scriptlet.Grammar
open Parse

variable {ts us rest c : List Located} {e l r : Expr} {level : Level}

theorem carries_iff {t : Token} {op : Operator} : Carries t op ↔ t.operator? = some op := by
  cases t <;> simp [Carries, Token.operator?]

theorem mem_product_operators {op : Operator} :
    op ∈ Level.product.operators ↔ op.isMultiplicative = true := by
  cases op <;> decide

theorem mem_sum_operators {op : Operator} :
    op ∈ Level.sum.operators ↔ op.isAdditive = true := by
  cases op <;> decide

theorem mem_comparison_operators {op : Operator} :
    op ∈ Level.comparison.operators ↔ op.isComparison = true := by
  cases op <;> decide

/-- A phrase of the level, and after it other tokens. -/
def Split (level : Level) (ts : List Located) (e : Expr) (rest : List Located) : Prop :=
  ∃ c, ts = c ++ rest ∧ Derives level c e

namespace Split

theorem parens (opening : Nat) {closing : Nat}
    (h : Split .comparison ts e (⟨.rightParen, closing⟩ :: rest)) :
    Split .primary (⟨.leftParen, opening⟩ :: ts) e rest := by
  obtain ⟨c, rfl, hc⟩ := h
  exact ⟨_, by simp, hc.parens opening closing⟩

theorem minus (line : Nat) (h : Split .signed ts e rest) :
    Split .signed (⟨.op .sub, line⟩ :: ts) (.negate e line) rest := by
  obtain ⟨c, rfl, hc⟩ := h
  exact ⟨_, by simp, hc.minus line⟩

theorem operand (h : Split .primary ts e rest) : Split .signed ts e rest :=
  h.imp fun _ hc => ⟨hc.1, hc.2.operand⟩

theorem factor (h : Split .signed ts e rest) : Split .product ts e rest :=
  h.imp fun _ hc => ⟨hc.1, hc.2.factor⟩

theorem term (h : Split .product ts e rest) : Split .sum ts e rest :=
  h.imp fun _ hc => ⟨hc.1, hc.2.term⟩

theorem side (h : Split .sum ts e rest) : Split .comparison ts e rest :=
  h.imp fun _ hc => ⟨hc.1, hc.2.side⟩

variable {t : Token} {op : Operator} {line : Nat}

theorem multiplied (hl : Split .product ts l (⟨t, line⟩ :: us)) (ht : t.operator? = some op)
    (hop : op.isMultiplicative = true) (hr : Split .signed us r rest) :
    Split .product ts (.binary l op r line) rest := by
  obtain ⟨c, rfl, hc⟩ := hl
  obtain ⟨d, rfl, hd⟩ := hr
  exact ⟨c ++ ⟨t, line⟩ :: d, by simp,
    hc.multiplied line (carries_iff.mpr ht) (mem_product_operators.mpr hop) hd⟩

theorem added (hl : Split .sum ts l (⟨t, line⟩ :: us)) (ht : t.operator? = some op)
    (hop : op.isAdditive = true) (hr : Split .product us r rest) :
    Split .sum ts (.binary l op r line) rest := by
  obtain ⟨c, rfl, hc⟩ := hl
  obtain ⟨d, rfl, hd⟩ := hr
  exact ⟨c ++ ⟨t, line⟩ :: d, by simp,
    hc.added line (carries_iff.mpr ht) (mem_sum_operators.mpr hop) hd⟩

theorem compared (hl : Split .sum ts l (⟨t, line⟩ :: us)) (ht : t.operator? = some op)
    (hop : op.isComparison = true) (hr : Split .sum us r rest) :
    Split .comparison ts (.binary l op r line) rest := by
  obtain ⟨c, rfl, hc⟩ := hl
  obtain ⟨d, rfl, hd⟩ := hr
  exact ⟨c ++ ⟨t, line⟩ :: d, by simp,
    hc.compared line (carries_iff.mpr ht) (mem_comparison_operators.mpr hop) hd⟩

end Split

/-- The reader of the phrases of a level. -/
def reader : Level → (ts : List Located) → Reply Expr ts.length
  | .comparison => comparison
  | .sum => Parse.sum
  | .product => product
  | .signed => signed
  | .primary => primary

theorem split_of_atom? {t : Located} (h : atom? t = some e) :
    Split .primary (t :: rest) e rest := by
  obtain ⟨t, line⟩ := t
  refine ⟨[⟨t, line⟩], rfl, ?_⟩
  unfold atom? at h
  split at h <;> cases h <;> rename_i ht <;> cases ht
  · exact .number _ _
  · exact .text _ _
  · exact .name _ _

/-- What every reader takes from a list of fewer than `n` tokens is a phrase of its level. -/
def SoundBelow (n : Nat) : Prop :=
  ∀ ts : List Located, ts.length < n → ∀ level e rest,
    (reader level ts).Yields e rest → Split level ts e rest

theorem primary_split (h : SoundBelow ts.length) (hy : (primary ts).Yields e rest) :
    Split .primary ts e rest := by
  rcases primary_yields_iff.mp hy with ⟨t, rfl, ht⟩ | ⟨opening, inner, closing, rfl, hinner⟩
  · exact split_of_atom? ht
  · exact (h inner (by simp) .comparison e _ hinner).parens opening

theorem signed_split (h : SoundBelow ts.length) (hy : (signed ts).Yields e rest) :
    Split .signed ts e rest := by
  rcases signed_yields_iff.mp hy with ⟨line, inner, operand, rfl, hinner, rfl⟩ | hprimary
  · exact (h inner (by simp) .signed operand rest hinner).minus line
  · exact (primary_split h hprimary).operand

theorem product_split (h : SoundBelow ts.length) (hy : (product ts).Yields e rest) :
    Split .product ts e rest := by
  obtain ⟨first, mid, hfirst, hrest⟩ := product_yields_iff.mp hy
  refine (product_loop.invariant (P := Split .product ts) ?_ (Nat.le_of_lt hfirst.length_lt)
    (signed_split h hfirst).factor hrest).1
  intro l t line op inner r next hinner ht hop hl hr
  exact hl.multiplied ht hop (h inner hinner .signed r next hr)

theorem sum_split (h : SoundBelow ts.length) (hy : (Parse.sum ts).Yields e rest) :
    Split .sum ts e rest := by
  obtain ⟨first, mid, hfirst, hrest⟩ := sum_yields_iff.mp hy
  refine (sum_loop.invariant (P := Split .sum ts) ?_ (Nat.le_of_lt hfirst.length_lt)
    (product_split h hfirst).term hrest).1
  intro l t line op inner r next hinner ht hop hl hr
  exact hl.added ht hop (h inner hinner .product r next hr)

theorem comparison_split (h : SoundBelow ts.length) (hy : (comparison ts).Yields e rest) :
    Split .comparison ts e rest := by
  obtain ⟨first, mid, hfirst, hrest⟩ := comparison_yields_iff.mp hy
  have hside := sum_split h hfirst
  cases hopen : Opens Operator.isComparison mid with
  | false =>
    obtain ⟨rfl, rfl⟩ := (comparisonFrom_yields_of_not_opens hopen).mp hrest
    exact hside.side
  | true =>
    obtain ⟨t, line, op, inner, rfl, ht, hop⟩ := opens_eq_true_iff.mp hopen
    obtain ⟨right, hright, rfl⟩ := (comparisonFrom_yields_of_opens line ht hop).mp hrest
    have hinner : inner.length < ts.length := by
      have := hfirst.length_lt
      simp only [List.length_cons] at this
      omega
    exact hside.compared ht hop (h inner hinner .sum right rest hright)

/-- What a reader takes is a phrase of its level. -/
theorem split_of_yields (hy : (reader level ts).Yields e rest) : Split level ts e rest := by
  have hbelow : ∀ n, SoundBelow n := by
    intro n
    induction n with
    | zero =>
      intro ts hts
      omega
    | succ n ih =>
      intro ts hts level e rest hy
      have h : SoundBelow ts.length := fun us hus => ih us (by omega)
      cases level with
      | comparison => exact comparison_split h hy
      | sum => exact sum_split h hy
      | product => exact product_split h hy
      | signed => exact signed_split h hy
      | primary => exact primary_split h hy
  exact hbelow _ ts (Nat.lt_succ_self _) level e rest hy

/-- The next token ends a comparison that spells `c`: it joins nothing to the last sum, and it
compares only where `c` has compared already. -/
structure Ends (c rest : List Located) : Prop where
  product : Opens Operator.isMultiplicative rest = false
  sum : Opens Operator.isAdditive rest = false
  comparison : (∃ e, Derives .sum c e) → Opens Operator.isComparison rest = false

/-- How a reader goes on after a phrase of its level. Signed operands close themselves; products and
sums are left to their loops. -/
def Resumes (c : List Located) (e : Expr) : Level → Prop
  | .primary => ∀ rest, (primary (c ++ rest)).Yields e rest
  | .signed => ∀ rest, (signed (c ++ rest)).Yields e rest
  | .product => ∀ mid a rest, (productFrom e mid).Yields a rest → (product (c ++ mid)).Yields a rest
  | .sum => ∀ mid a rest, Opens Operator.isMultiplicative mid = false →
      (sumFrom e mid).Yields a rest → (Parse.sum (c ++ mid)).Yields a rest
  | .comparison => ∀ rest, Ends c rest → (comparison (c ++ rest)).Yields e rest

theorem Resumes.product_yields (h : Resumes c e .product)
    (hrest : Opens Operator.isMultiplicative rest = false) : (product (c ++ rest)).Yields e rest :=
  h rest e rest ((product_loop.stops hrest).mpr ⟨rfl, rfl⟩)

theorem Resumes.sum_yields (h : Resumes c e .sum)
    (hproduct : Opens Operator.isMultiplicative rest = false)
    (hsum : Opens Operator.isAdditive rest = false) : (Parse.sum (c ++ rest)).Yields e rest :=
  h rest e rest hproduct ((sum_loop.stops hsum).mpr ⟨rfl, rfl⟩)

theorem opens_eq_false {family : Operator → Bool} {t : Token} {op : Operator} {line : Nat}
    (ht : Carries t op) (hop : family op = false) : Opens family (⟨t, line⟩ :: us) = false := by
  simp [Opens, carries_iff.mp ht, hop]

/-- The readers go through every phrase of the grammar. -/
theorem resumes_of_derives (h : Derives level c e) : Resumes c e level := by
  induction h with
  | number n line =>
    intro rest
    exact primary_yields_iff.mpr (.inl ⟨_, rfl, rfl⟩)
  | text s line =>
    intro rest
    exact primary_yields_iff.mpr (.inl ⟨_, rfl, rfl⟩)
  | name x line =>
    intro rest
    exact primary_yields_iff.mpr (.inl ⟨_, rfl, rfl⟩)
  | @parens ts e opening closing _ ih =>
    intro rest
    have hinner : (comparison (ts ++ ⟨.rightParen, closing⟩ :: rest)).Yields e _ :=
      ih (⟨.rightParen, closing⟩ :: rest) ⟨rfl, rfl, fun _ => rfl⟩
    exact primary_yields_iff.mpr (.inr ⟨opening, _, closing, by simp, hinner⟩)
  | operand _ ih =>
    intro rest
    exact signed_yields_iff.mpr (.inr (ih rest))
  | minus line _ ih =>
    intro rest
    exact signed_yields_iff.mpr (.inl ⟨line, _, _, rfl, ih rest, rfl⟩)
  | factor _ ih =>
    intro mid a rest hloop
    exact product_yields_iff.mpr ⟨_, mid, ih mid, hloop⟩
  | @multiplied ts us l r t op line _ ht hop _ ihl ihr =>
    intro mid a rest hloop
    rw [List.append_assoc]
    apply ihl
    exact (product_loop.opens line (carries_iff.mp ht) (mem_product_operators.mp hop)).mpr
      ⟨r, mid, ihr mid, hloop⟩
  | term _ ih =>
    intro mid a rest hmid hloop
    exact sum_yields_iff.mpr ⟨_, mid, ih.product_yields hmid, hloop⟩
  | @added ts us l r t op line _ ht hop _ ihl ihr =>
    intro mid a rest hmid hloop
    have hop := mem_sum_operators.mp hop
    have hproduct : op.isMultiplicative = false := by
      cases hm : op.isMultiplicative with
      | false => rfl
      | true => simp [Operator.isAdditive_eq_false hm] at hop
    rw [List.append_assoc]
    apply ihl _ _ _ (opens_eq_false ht hproduct)
    exact (sum_loop.opens line (carries_iff.mp ht) hop).mpr ⟨r, mid, ihr.product_yields hmid, hloop⟩
  | @side ts e hsum ih =>
    intro rest hends
    refine comparison_yields_iff.mpr ⟨e, rest, ih.sum_yields hends.product hends.sum, ?_⟩
    exact (comparisonFrom_yields_of_not_opens (hends.comparison ⟨e, hsum⟩)).mpr ⟨rfl, rfl⟩
  | @compared ts us l r t op line _ ht hop _ ihl ihr =>
    intro rest hends
    have hop := mem_comparison_operators.mp hop
    have hother : op.isMultiplicative = false ∧ op.isAdditive = false := by
      simpa [Operator.isComparison_eq] using hop
    rw [List.append_assoc]
    refine comparison_yields_iff.mpr ⟨l, ⟨t, line⟩ :: (us ++ rest), ?_, ?_⟩
    · exact ihl.sum_yields (opens_eq_false ht hother.1) (opens_eq_false ht hother.2)
    · exact (comparisonFrom_yields_of_opens line (carries_iff.mp ht) hop).mpr
        ⟨r, ihr.sum_yields hends.product hends.sum, rfl⟩

end Scriptlet.Grammar
