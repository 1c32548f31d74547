import Scriptlet.Error
import Scriptlet.Proofs.Lexical.Munch

/-!
The wording of failures. Labels, symbols, numbers and fixed wording are all plain: printable
characters of ASCII other than the double quote. So a message is plain but for the character of the
script that it quotes (`ScriptError.mem_message`), and tells nothing else of the script but lines,
kinds and types.
-/
namespace Scriptlet

namespace Text

/-- The printable characters of ASCII other than the double quote. -/
def isPlain (c : Char) : Bool :=
  ' '.toNat ≤ c.toNat && c.toNat ≤ '~'.toNat && c != '"'

def Plain (s : String) : Prop :=
  ∀ c ∈ s.toList, isPlain c = true

theorem plain_iff_all {s : String} : Plain s ↔ s.toList.all isPlain = true :=
  List.all_eq_true.symm

instance (s : String) : Decidable (Plain s) :=
  decidable_of_iff _ plain_iff_all.symm

theorem Plain.append {s t : String} (hs : Plain s) (ht : Plain t) : Plain (s ++ t) := by
  intro c hc
  rw [String.toList_append, List.mem_append] at hc
  exact hc.elim (hs c) (ht c)

theorem isPlain_of_isDigit {c : Char} (h : c.isDigit = true) : isPlain c = true := by
  obtain ⟨hlow, hhigh⟩ := Lexical.isDigit_iff.mp h
  have hzero : '0'.toNat ≤ c.toNat := UInt32.le_iff_toNat_le.mp hlow
  have hnine : c.toNat ≤ '9'.toNat := UInt32.le_iff_toNat_le.mp hhigh
  have hspace : ' '.toNat ≤ c.toNat := Nat.le_trans (by decide) hzero
  have htilde : c.toNat ≤ '~'.toNat := Nat.le_trans hnine (by decide)
  have hquote : c ≠ '"' := by
    rintro rfl
    exact absurd hlow (by decide)
  simp only [isPlain, Bool.and_eq_true, decide_eq_true_eq, bne_iff_ne]
  exact ⟨⟨hspace, htilde⟩, hquote⟩

theorem isDigit_of_mem_repr {c : Char} {n : Nat} (h : c ∈ n.repr.toList) : c.isDigit = true := by
  rw [Nat.toList_repr] at h
  exact Nat.isDigit_of_mem_toDigits (by decide) (by decide) h

theorem plain_repr (n : Nat) : Plain n.repr :=
  fun _ hc => isPlain_of_isDigit (isDigit_of_mem_repr hc)

theorem plain_repr_int (i : Int) : Plain i.repr := by
  cases i with
  | ofNat n => exact plain_repr n
  | negSucc n => exact .append (by decide) (plain_repr (n + 1))

theorem Plain.not_mem {s : String} {c : Char} (h : Plain s) (hc : isPlain c = false) :
    c ∉ s.toList := by
  intro hmem
  rw [h c hmem] at hc
  cases hc

/-- What stands neither in the parts nor in what is put between them does not stand in the whole. -/
theorem not_mem_intercalate {c : Char} {sep : String} {ls : List String}
    (hsep : c ∉ sep.toList) (hls : ∀ l ∈ ls, c ∉ l.toList) : c ∉ (sep.intercalate ls).toList := by
  rw [String.toList_intercalate]
  induction ls with
  | nil => simp
  | cons l ls ih =>
    obtain ⟨hl, hrest⟩ := List.forall_mem_cons.mp hls
    cases ls with
    | nil => simpa using hl
    | cons m ls =>
      have hlater := ih hrest
      rw [List.map_cons] at hlater
      rw [List.map_cons, List.map_cons, List.intercalate_cons_cons, List.mem_append,
        List.mem_append]
      exact not_or.mpr ⟨not_or.mpr ⟨hl, hsep⟩, hlater⟩

end Text

open Text (Plain isPlain plain_repr)

theorem Token.Kind.plain_label (k : Token.Kind) : Plain k.label := by
  cases k <;> decide

theorem Operator.plain_symbol (op : Operator) : Plain op.symbol := by
  cases op <;> decide

theorem ValueType.plain_label (t : ValueType) : Plain t.label := by
  cases t <;> decide

theorem Wanted.plain_label (w : Wanted) : Plain w.label := by
  cases w with
  | token kind => exact kind.plain_label
  | expression | statement => decide

theorem Fault.plain_message (fault : Fault) : Plain fault.message := by
  cases fault with
  | operands left op right =>
    have hleft : Plain ("Unsupported operand types: " ++ left.label) :=
      .append (by decide) left.plain_label
    have hop : Plain ("Unsupported operand types: " ++ left.label ++ " " ++ op.symbol) :=
      (hleft.append (by decide)).append op.plain_symbol
    exact ((hop.append (by decide)).append right.plain_label).append (by decide)
  | operand type => exact (Plain.append (by decide) type.plain_label).append (by decide)
  | divisionByZero | overflow => decide
  | misapplied op => exact (Plain.append (by decide) op.plain_symbol).append (by decide)

theorem RuntimeError.plain_message (e : RuntimeError) : Plain e.message :=
  ((Plain.append (by decide) (plain_repr e.line)).append (by decide)).append e.fault.plain_message

/-- The words that messages about the text of a script start with. -/
theorem plain_syntaxError (line : Nat) : Plain ("Syntax error on line " ++ line.repr) :=
  .append (by decide) (plain_repr line)

theorem ParseError.plain_message (e : ParseError) : Plain e.message := by
  cases e with
  | unexpectedToken found line =>
    exact (((plain_syntaxError line).append (by decide)).append found.plain_label).append
      (by decide)
  | expectedToken expected found line =>
    have hexpected : Plain ("Syntax error on line " ++ line.repr ++ ": Expected " ++
        expected.label) := ((plain_syntaxError line).append (by decide)).append expected.plain_label
    exact ((hexpected.append (by decide)).append found.plain_label).append (by decide)
  | unexpectedEnd expected =>
    exact (Plain.append (by decide) expected.plain_label).append (by decide)

theorem LexError.mem_message {e : LexError} {c : Char} (h : c ∈ e.message.toList) :
    isPlain c = true ∨ ∃ line, e = .unexpectedCharacter c line := by
  cases e with
  | literalTooLarge line => exact .inl ((plain_syntaxError line).append (by decide) c h)
  | unexpectedCharacter found line =>
    have hfront : Plain ("Syntax error on line " ++ line.repr ++ ": Unexpected character '") :=
      (plain_syntaxError line).append (by decide)
    have hmessage : c ∈ ("Syntax error on line " ++ line.repr ++ ": Unexpected character '" ++
        String.singleton found ++ "'.").toList := h
    rw [String.toList_append, String.toList_append, String.toList_singleton, List.mem_append,
      List.mem_append, List.mem_singleton] at hmessage
    obtain (hc | rfl) | hc := hmessage
    · exact .inl (hfront c hc)
    · exact .inr ⟨line, rfl⟩
    · exact .inl ((show Plain "'." by decide) c hc)

theorem LexError.found_mem_message (found : Char) (line : Nat) :
    found ∈ (unexpectedCharacter found line).message.toList := by
  have hmessage : (unexpectedCharacter found line).message = "Syntax error on line " ++ line.repr ++
      ": Unexpected character '" ++ String.singleton found ++ "'." := rfl
  simp [hmessage]

/-- A message is plain, but for a character that the scan did not expect. -/
theorem ScriptError.mem_message {e : ScriptError} {c : Char} (h : c ∈ e.message.toList) :
    isPlain c = true ∨ ∃ line, e = .lex (.unexpectedCharacter c line) := by
  cases e with
  | lex e =>
    obtain hplain | ⟨line, rfl⟩ := LexError.mem_message h
    · exact .inl hplain
    · exact .inr ⟨line, rfl⟩
  | parse e => exact .inl (e.plain_message c h)
  | runtime e => exact .inl (e.plain_message c h)

end Scriptlet
