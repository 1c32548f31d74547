import Scriptlet.Proofs.Grammar.Expressions

/-!
Whole programs against the grammar. `program_iff_derives` says that reading accepts exactly the
token lists that the grammar derives and returns the tree of the derivation.
-/
namespace Scriptlet.Grammar
open Parse

variable {ts us rest c : List Located} {e : Expr} {s : Stmt} {p : Program}

/-- No operator comes next, of any family. -/
abbrev Closed (rest : List Located) : Prop :=
  Opens (fun _ => true) rest = false

theorem Closed.opens_eq_false {family : Operator → Bool} (h : Closed rest) :
    Opens family rest = false := by
  cases hopen : Opens family rest with
  | false => rfl
  | true =>
    obtain ⟨t, line, op, inner, rfl, ht, _⟩ := opens_eq_true_iff.mp hopen
    simp [Closed, Opens, ht] at h

theorem Closed.ends (h : Closed rest) : Ends c rest :=
  ⟨h.opens_eq_false, h.opens_eq_false, fun _ => h.opens_eq_false⟩

theorem expression_yields (h : Derives .comparison c e) (hrest : Closed rest) :
    (expression (c ++ rest)).Yields e rest :=
  resumes_of_derives h rest hrest.ends

/-- A statement starts with a keyword or a name. -/
theorem DerivesStmt.closed_append (h : DerivesStmt c s) (rest : List Located) :
    Closed (c ++ rest) := by
  cases h <;> rfl

theorem DerivesProgram.closed_append (h : DerivesProgram c p) (hrest : Closed rest) :
    Closed (c ++ rest) := by
  cases h with
  | nil => exact hrest
  | cons hs hp =>
    rw [List.append_assoc]
    exact hs.closed_append _

mutual

theorem statement_yields {c : List Located} {s : Stmt} (h : DerivesStmt c s) {rest : List Located}
    (hrest : Closed rest) : (statement (c ++ rest)).Yields s rest := by
  cases h with
  | print line he =>
    exact statement_yields_iff.mpr (.inl ⟨line, _, _, rfl, expression_yields he hrest, rfl⟩)
  | @cond ts us e body line opening closing he hbody =>
    let mid : List Located := ⟨.leftBrace, opening⟩ :: (us ++ ⟨.rightBrace, closing⟩ :: rest)
    have hcond : (expression (ts ++ mid)).Yields e mid := expression_yields he rfl
    refine statement_yields_iff.mpr
      (.inr (.inl ⟨line, ts ++ mid, e, mid, body, by simp [mid], hcond, ?_, rfl⟩))
    exact block_yields_iff.mpr ⟨opening, _, rfl, blockFrom_yields hbody⟩
  | assign x line sign he =>
    exact statement_yields_iff.mpr
      (.inr (.inr ⟨x, line, sign, _, _, rfl, expression_yields he hrest, rfl⟩))

theorem blockFrom_yields {c : List Located} {p : Program} (h : DerivesProgram c p) {closing : Nat}
    {rest : List Located} : (blockFrom (c ++ ⟨.rightBrace, closing⟩ :: rest)).Yields p rest := by
  cases h with
  | nil => exact blockFrom_yields_iff.mpr (.inl ⟨closing, rfl, rfl⟩)
  | cons hs hp =>
    rw [List.append_assoc]
    exact blockFrom_yields_iff.mpr (.inr ⟨_, _, _, statement_yields hs (hp.closed_append rfl),
      blockFrom_yields hp, rfl⟩)

end

theorem program_eq_ok (h : DerivesProgram c p) : program c = .ok p := by
  -- Bodies were dealt with above, so the induction is on the top-level statements only.
  induction p generalizing c with
  | nil =>
    cases h
    exact program_eq_ok_iff.mpr (.inl ⟨rfl, rfl⟩)
  | cons s p ih =>
    cases h with
    | @cons ts us _ _ hs hp =>
      have hclosed : Closed us := by simpa using hp.closed_append (show Closed [] from rfl)
      exact program_eq_ok_iff.mpr (.inr ⟨s, us, p, statement_yields hs hclosed, ih hp, rfl⟩)

theorem derives_of_expression (h : (expression ts).Yields e rest) :
    ∃ c, ts = c ++ rest ∧ Derives .comparison c e := by
  have hreader : (reader .comparison ts).Yields e rest := h
  exact split_of_yields hreader

/-- A body and its closing brace, and after it other tokens. -/
def SplitBody (ts : List Located) (p : Program) (rest : List Located) : Prop :=
  ∃ c closing, ts = c ++ ⟨.rightBrace, closing⟩ :: rest ∧ DerivesProgram c p

theorem derives_of_statement
    (hbody : ∀ us : List Located, us.length < ts.length → ∀ p rest,
      (blockFrom us).Yields p rest → SplitBody us p rest)
    (h : (statement ts).Yields s rest) : ∃ c, ts = c ++ rest ∧ DerivesStmt c s := by
  rcases statement_yields_iff.mp h with ⟨line, inner, e, rfl, he, rfl⟩ |
    ⟨line, inner, e, mid, body, rfl, he, hblock, rfl⟩ | ⟨x, line, sign, inner, e, rfl, he, rfl⟩
  · obtain ⟨c, rfl, hc⟩ := derives_of_expression he
    exact ⟨_, by simp, .print line hc⟩
  · obtain ⟨opening, us, rfl, hus⟩ := block_yields_iff.mp hblock
    have hlt := he.length_lt
    simp only [List.length_cons] at hlt hbody
    obtain ⟨c, rfl, hc⟩ := derives_of_expression he
    obtain ⟨d, closing, rfl, hd⟩ := hbody us (by omega) body rest hus
    exact ⟨_, by simp, .cond line opening closing hc hd⟩
  · obtain ⟨c, rfl, hc⟩ := derives_of_expression he
    exact ⟨_, by simp, .assign x line sign hc⟩

theorem splitBody_of_blockFrom (h : (blockFrom ts).Yields p rest) : SplitBody ts p rest := by
  induction hn : ts.length using Nat.strongRecOn generalizing ts p rest with
  | ind n ih =>
    subst hn
    rcases blockFrom_yields_iff.mp h with ⟨closing, rfl, rfl⟩ | ⟨first, mid, more, hs, hmore, rfl⟩
    · exact ⟨[], closing, rfl, .nil⟩
    · have hlt := hs.length_lt
      obtain ⟨c, rfl, hc⟩ := derives_of_statement (fun us hus p rest hy => ih _ hus hy rfl) hs
      obtain ⟨d, closing, rfl, hd⟩ := ih mid.length hlt hmore rfl
      exact ⟨c ++ d, closing, by simp, .cons hc hd⟩

theorem derives_of_program (h : program ts = .ok p) : DerivesProgram ts p := by
  induction p generalizing ts with
  | nil =>
    rcases program_eq_ok_iff.mp h with ⟨rfl, _⟩ | ⟨_, _, _, _, _, hp⟩
    · exact .nil
    · cases hp
  | cons s p ih =>
    rcases program_eq_ok_iff.mp h with ⟨_, hp⟩ | ⟨first, mid, more, hs, hmore, hp⟩
    · cases hp
    · cases hp
      obtain ⟨c, rfl, hc⟩ :=
        derives_of_statement (fun us _ p rest hy => splitBody_of_blockFrom hy) hs
      exact .cons hc (ih hmore)

/-- Reading a token list as a program accepts exactly what the grammar derives, with the tree of the
derivation. So every token is used, no list spells two programs, and reading fails just where the
grammar has no derivation. -/
theorem program_iff_derives (ts : List Located) :
    (∀ p, program ts = .ok p ↔ DerivesProgram ts p) ∧
    (∀ p q, DerivesProgram ts p → DerivesProgram ts q → p = q) ∧
    ((∃ e, program ts = .error e) ↔ ∀ p, ¬DerivesProgram ts p) := by
  have hiff : ∀ p, program ts = .ok p ↔ DerivesProgram ts p :=
    fun p => ⟨derives_of_program, program_eq_ok⟩
  refine ⟨hiff, ?_, ?_⟩
  · intro p q hp hq
    exact Except.ok.inj ((program_eq_ok hp).symm.trans (program_eq_ok hq))
  · simp only [← hiff]
    cases program ts <;> simp

end Scriptlet.Grammar
