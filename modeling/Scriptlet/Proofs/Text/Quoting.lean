import Scriptlet.Proofs.Text.Codes
import Scriptlet.Text.Quoted

/-!
Quoted texts can be read back, whichever characters stand for themselves. A character is written in
one of three forms (`escape_forms`), and these make a prefix-free code (`prefixFree_escape`). A
quoted text holds no line break, and the two quotes around it are the only ones that no backslash
covers (`brings_quoted`).
-/
namespace Scriptlet.Text

variable {shown : Char → Bool} {c d : Char} {m n : Nat}

section Hexadecimal

/-- The last hexadecimal digit, and before it those of the rest of the number. -/
theorem toDigits_sixteen (n : Nat) : Nat.toDigits 16 n =
    (if n < 16 then [] else Nat.toDigits 16 (n / 16)) ++ [(n % 16).digitChar] := by
  rw [Nat.toDigits_eq_if (by decide)]
  split
  · rename_i h
    rw [Nat.mod_eq_of_lt h, List.nil_append]
  · rfl

theorem digitChar_inj : ∀ m < 16, ∀ n < 16, m.digitChar = n.digitChar → m = n := by
  decide

theorem toDigits_sixteen_inj (h : Nat.toDigits 16 m = Nat.toDigits 16 n) : m = n := by
  induction m using Nat.strongRecOn generalizing n with
  | ind m ih =>
    rw [toDigits_sixteen m, toDigits_sixteen n] at h
    obtain ⟨hfront, hlast⟩ := List.append_inj' h rfl
    have hmod := digitChar_inj _ (Nat.mod_lt m (by decide)) _ (Nat.mod_lt n (by decide))
      (List.cons.inj hlast).1
    split at hfront <;> split at hfront
    · omega
    · exact absurd hfront.symm Nat.toDigits_ne_nil
    · exact absurd hfront Nat.toDigits_ne_nil
    · have hdiv := ih (m / 16) (by omega) hfront
      omega

/-- The digits and small letters that hexadecimal numbers are written with. -/
def isHex (c : Char) : Bool :=
  c.isDigit || ('a' ≤ c && c ≤ 'f')

theorem isHex_digitChar : ∀ n < 16, isHex n.digitChar = true := by
  decide

theorem isHex_of_mem_toDigits (h : c ∈ Nat.toDigits 16 n) : isHex c = true := by
  induction n using Nat.strongRecOn with
  | ind n ih =>
    rw [toDigits_sixteen, List.mem_append, List.mem_singleton] at h
    obtain hfront | rfl := h
    · split at hfront
      · cases hfront
      · exact ih (n / 16) (by omega) hfront
    · exact isHex_digitChar _ (Nat.mod_lt n (by decide))

/-- A number in hexadecimal, between braces. -/
def braced (n : Nat) : List Char :=
  '\x7b' :: (Nat.toDigits 16 n ++ ['\x7d'])

theorem not_mem_braced (hhex : isHex c = false) (hbrace : c ∉ ['\x7b', '\x7d']) : c ∉ braced n := by
  simp only [List.mem_cons, List.not_mem_nil, or_false, not_or] at hbrace
  simp only [braced, List.mem_cons, List.mem_append, List.not_mem_nil, or_false, not_or]
  refine ⟨hbrace.1, fun hdigit => ?_, hbrace.2⟩
  rw [isHex_of_mem_toDigits hdigit] at hhex
  cases hhex

theorem prefixFree_braced : PrefixFree braced := by
  have hinj : Function.Injective (Nat.toDigits 16) := fun _ _ => toDigits_sixteen_inj
  have hstop : ∀ n, '\x7d' ∉ Nat.toDigits 16 n :=
    fun n h => absurd (isHex_of_mem_toDigits h) (by decide)
  intro m n u v h
  exact prefixFree_of_not_mem hinj hstop (List.cons.inj h).2

end Hexadecimal

/-- The characters with an escape of two characters, and the second of these. -/
def signs : List (Char × Char) :=
  [('\x00', '0'), ('\t', 't'), ('\r', 'r'), ('\n', 'n'), ('"', '"'), ('\\', '\\')]

/-- A character that has a sign is written with it, and any other by itself or by its code point. -/
theorem escape_forms (shown : Char → Bool) (c : Char) :
    (∃ sign, (c, sign) ∈ signs ∧ escape shown c = ['\\', sign]) ∨
    (c ∉ signs.map Prod.fst ∧
      (escape shown c = [c] ∨ escape shown c = '\\' :: 'u' :: braced c.toNat)) := by
  unfold escape
  split
  · exact .inl ⟨'0', by decide, rfl⟩
  · exact .inl ⟨'t', by decide, rfl⟩
  · exact .inl ⟨'r', by decide, rfl⟩
  · exact .inl ⟨'n', by decide, rfl⟩
  · exact .inl ⟨'"', by decide, rfl⟩
  · exact .inl ⟨'\\', by decide, rfl⟩
  · refine .inr ⟨by simp_all [signs], ?_⟩
    split
    · exact .inl rfl
    · exact .inr rfl

theorem escape_ne_nil (c : Char) : escape shown c ≠ [] := by
  obtain ⟨sign, -, h⟩ | ⟨-, h | h⟩ := escape_forms shown c <;> rw [h] <;> nofun

theorem signs_inj : ∀ p ∈ signs, ∀ q ∈ signs, p.2 = q.2 → p.1 = q.1 := by
  decide

theorem sign_ne_u : ∀ p ∈ signs, p.2 ≠ 'u' := by
  decide

theorem backslash_mem_signs : '\\' ∈ signs.map Prod.fst := by
  decide

/-- Characters are told apart by how they are written, whatever follows. -/
theorem prefixFree_escape (shown : Char → Bool) : PrefixFree (escape shown) := by
  intro c d u v h
  -- The first character tells a character by itself from the other forms, and the second a sign
  -- from a code point.
  obtain ⟨a, ha, hc⟩ | ⟨hplain, hc | hc⟩ := escape_forms shown c <;>
    obtain ⟨b, hb, hd⟩ | ⟨hplain', hd | hd⟩ := escape_forms shown d <;>
    rw [hc, hd] at h
  · obtain ⟨rfl, rfl⟩ : a = b ∧ u = v := by simpa using h
    exact ⟨signs_inj _ ha _ hb rfl, rfl⟩
  · cases (List.cons.inj h).1
    exact absurd backslash_mem_signs hplain'
  · exact absurd (List.cons.inj (List.cons.inj h).2).1 (sign_ne_u _ ha)
  · cases (List.cons.inj h).1
    exact absurd backslash_mem_signs hplain
  · exact List.cons.inj h
  · cases (List.cons.inj h).1
    exact absurd backslash_mem_signs hplain
  · exact absurd (List.cons.inj (List.cons.inj h).2).1.symm (sign_ne_u _ hb)
  · cases (List.cons.inj h).1
    exact absurd backslash_mem_signs hplain'
  · obtain ⟨hpoint, hrest⟩ := prefixFree_braced (List.cons.inj (List.cons.inj h).2).2
    exact ⟨Char.toNat_inj.mp hpoint, hrest⟩

theorem toList_quoted (shown : Char → Bool) (s : String) :
    (quoted shown s).toList = '"' :: s.toList.flatMap (escape shown) ++ ['"'] :=
  String.toList_ofList

/-- No two texts are quoted alike. -/
theorem quoted_injective (shown : Char → Bool) : Function.Injective (quoted shown) := by
  intro s t h
  have hchars := congrArg String.toList h
  rw [toList_quoted, toList_quoted] at hchars
  have hbody := List.append_cancel_right (List.cons.inj hchars).2
  exact String.toList_inj.mp ((prefixFree_escape shown).flatMap_inj escape_ne_nil hbody)

theorem signs_control (hc : c ∈ ['\x00', '\t', '\r', '\n']) :
    c ∈ signs.map Prod.fst ∧ c ∉ '\\' :: 'u' :: '"' :: signs.map Prod.snd ∧
      isHex c = false ∧ c ∉ ['\x7b', '\x7d'] := by
  simp only [List.mem_cons, List.not_mem_nil, or_false] at hc
  obtain rfl | rfl | rfl | rfl := hc <;> decide

theorem control_not_mem_escape (hc : c ∈ ['\x00', '\t', '\r', '\n']) : c ∉ escape shown d := by
  obtain ⟨hsign, hmarks, hhex, hbrace⟩ := signs_control hc
  simp only [List.mem_cons, not_or] at hmarks
  obtain ⟨hslash, hu, -, hsecond⟩ := hmarks
  obtain ⟨b, hb, hd⟩ | ⟨hplain, hd | hd⟩ := escape_forms shown d <;> rw [hd]
  · simp only [List.mem_cons, List.not_mem_nil, or_false, not_or]
    exact ⟨hslash, fun h => hsecond (h ▸ List.mem_map_of_mem hb)⟩
  · rw [List.mem_singleton]
    rintro rfl
    exact hplain hsign
  · simp only [List.mem_cons, not_or]
    exact ⟨hslash, hu, not_mem_braced hhex hbrace⟩

/-- A quoted text holds no raw line break, carriage return, tab or NUL. -/
theorem control_not_mem_quoted (hc : c ∈ ['\x00', '\t', '\r', '\n']) (s : String) :
    c ∉ (quoted shown s).toList := by
  obtain ⟨-, hmarks, -⟩ := signs_control hc
  simp only [List.mem_cons, not_or] at hmarks
  rw [toList_quoted]
  simp only [List.cons_append, List.mem_cons, List.mem_append, List.mem_flatMap, List.not_mem_nil,
    or_false, not_or]
  refine ⟨hmarks.2.2.1, ?_, hmarks.2.2.1⟩
  rintro ⟨d, -, hd⟩
  exact control_not_mem_escape hc hd

/-- The number of quotes that no backslash covers. A backslash covers the next character. -/
def bareQuotes : List Char → Nat
  | [] => 0
  | '\\' :: _ :: cs => bareQuotes cs
  | c :: cs => (if c = '"' then 1 else 0) + bareQuotes cs

theorem bareQuotes_cons {cs : List Char} (h : c ≠ '\\') :
    bareQuotes (c :: cs) = (if c = '"' then 1 else 0) + bareQuotes cs := by
  cases cs <;> simp [bareQuotes, h]

/-- Wherever the characters stand, they bring `n` uncovered quotes and cover nothing after them. -/
def Brings (w : List Char) (n : Nat) : Prop :=
  ∀ u, bareQuotes (w ++ u) = n + bareQuotes u

theorem Brings.append {w x : List Char} (hw : Brings w m) (hx : Brings x n) :
    Brings (w ++ x) (m + n) := by
  intro u
  rw [List.append_assoc, hw, hx, Nat.add_assoc]

theorem brings_of_not_mem {w : List Char} (hquote : '"' ∉ w) (hslash : '\\' ∉ w) : Brings w 0 := by
  induction w with
  | nil =>
    intro u
    rw [List.nil_append, Nat.zero_add]
  | cons c w ih =>
    intro u
    simp only [List.mem_cons, not_or] at hquote hslash
    rw [List.cons_append, bareQuotes_cons (Ne.symm hslash.1), if_neg (Ne.symm hquote.1),
      Nat.zero_add]
    exact ih hquote.2 hslash.2 u

theorem brings_escape (c : Char) : Brings (escape shown c) 0 := by
  obtain ⟨sign, -, h⟩ | ⟨hplain, h | h⟩ := escape_forms shown c <;> rw [h]
  · intro u
    rw [Nat.zero_add]
    rfl
  · have hne : ∀ d ∈ signs.map Prod.fst, d ∉ [c] := by
      intro d hd hmem
      cases List.mem_singleton.mp hmem
      exact hplain hd
    exact brings_of_not_mem (hne '"' (by decide)) (hne '\\' (by decide))
  · have hbraced : Brings (braced c.toNat) 0 :=
      brings_of_not_mem (not_mem_braced rfl (by decide)) (not_mem_braced rfl (by decide))
    exact hbraced

/-- A quoted text has two uncovered quotes, the one in front and the one behind. -/
theorem brings_quoted (s : String) : Brings (quoted shown s).toList 2 := by
  have hquote : Brings ['"'] 1 := fun u => bareQuotes_cons (by decide)
  have hbody : Brings (s.toList.flatMap (escape shown)) 0 := by
    induction s.toList with
    | nil => exact brings_of_not_mem (by simp) (by simp)
    | cons c cs ih => exact (brings_escape c).append ih
  rw [toList_quoted]
  exact (hquote.append hbody).append hquote

end Scriptlet.Text
