import Scriptlet.Text.Bytes

/-!
The order of texts by their characters. UTF-8 writes a scalar value as six-bit digits, the most
significant first, behind a first byte that is larger the more of them follow. Of two characters the
one with the smaller scalar value therefore has the smaller encoding, and the two differ before
either ends (`encode_precedes`), so texts compare by bytes as they do by scalar values
(`order_eq_compare`).
-/
namespace Scriptlet.Text

/-- The Unicode scalar values of a text. -/
def scalars (s : String) : List Nat :=
  s.toList.map Char.toNat

theorem scalars_inj {a b : String} : scalars a = scalars b ↔ a = b := by
  have hinjective : ∀ c d : Char, c.toNat = d.toNat → c = d := fun _ _ => Char.toNat_inj.mp
  rw [scalars, scalars, List.map_inj_right hinjective, String.toList_inj]

section Lexicographic

variable {α : Type} [Ord α] [Std.LawfulEqOrd α]

theorem compare_append_left (w u v : List α) : compare (w ++ u) (w ++ v) = compare u v := by
  induction w with
  | nil => rfl
  | cons x w ih =>
    rw [List.cons_append, List.cons_append, List.compare_cons_cons, Std.ReflOrd.compare_self, ih]
    rfl

/-- Lists compare by the lexicographic order of their elements. -/
theorem compare_eq_lt_iff [LT α] [LE α] [Std.LawfulOrderOrd α] [Std.LawfulOrderLT α]
    {u v : List α} : compare u v = .lt ↔ u < v := by
  induction u generalizing v with
  | nil => cases v <;> simp
  | cons x u ih =>
    cases v with
    | nil => simp
    | cons y v =>
      rw [List.compare_cons_cons, Ordering.then_eq_lt, Std.compare_eq_lt, ih, Std.compare_eq_iff_eq,
        List.cons_lt_cons_iff]

end Lexicographic

/-- Whatever follows them, the first bytes come before the second. -/
def Precedes (u v : List UInt8) : Prop :=
  ∀ s t, compare (u ++ s) (v ++ t) = .lt

namespace Precedes

variable {u v : List UInt8}

theorem append (h : Precedes u v) (s t : List UInt8) : Precedes (u ++ s) (v ++ t) := by
  intro s' t'
  rw [List.append_assoc, List.append_assoc]
  exact h (s ++ s') (t ++ t')

theorem append_left (h : Precedes u v) (w : List UInt8) : Precedes (w ++ u) (w ++ v) := by
  intro s t
  rw [List.append_assoc, List.append_assoc, compare_append_left]
  exact h s t

theorem of_first {m n : Nat} (h : m < n) (hn : n < 256) :
    Precedes (.ofNat m :: u) (.ofNat n :: v) := by
  intro s t
  have hlt : UInt8.ofNat m < UInt8.ofNat n := by
    have hm : m < 256 := Nat.lt_trans h hn
    rwa [UInt8.lt_iff_toNat_lt, UInt8.toNat_ofNat_of_lt' hm, UInt8.toNat_ofNat_of_lt' hn]
  rw [List.cons_append, List.cons_append, List.compare_cons_cons, Std.compare_eq_lt.mpr hlt]
  rfl

end Precedes

/-- A number in six-bit digits, each with the mark of a continuation byte, `k` of them behind a
first byte with another mark. -/
def digits (mark : Nat) : Nat → Nat → List UInt8
  | 0, n => [.ofNat (mark + n)]
  | k + 1, n => digits mark k (n / 64) ++ [.ofNat (0x80 + n % 64)]

/-- What is left of a number for the first byte before `k` digits. -/
def leading : Nat → Nat → Nat
  | 0, n => n
  | k + 1, n => leading k (n / 64)

theorem digits_eq_cons (mark k n : Nat) :
    ∃ rest, digits mark k n = .ofNat (mark + leading k n) :: rest := by
  induction k generalizing n with
  | zero => exact ⟨[], rfl⟩
  | succ k ih =>
    obtain ⟨rest, hrest⟩ := ih (n / 64)
    refine ⟨rest ++ [.ofNat (0x80 + n % 64)], ?_⟩
    rw [digits, hrest]
    rfl

/-- Of two numbers with the same number of digits the smaller comes first. -/
theorem digits_precedes {mark k m n : Nat} (h : m < n) (hn : mark + leading k n < 256) :
    Precedes (digits mark k m) (digits mark k n) := by
  induction k generalizing m n with
  | zero => exact .of_first (Nat.add_lt_add_left h mark) hn
  | succ k ih =>
    -- The digits before the last decide, or else they agree and the last ones do.
    obtain hlt | heq : m / 64 < n / 64 ∨ m / 64 = n / 64 := by omega
    · exact (ih hlt hn).append _ _
    · rw [digits, digits, heq]
      exact Precedes.append_left (.of_first (by omega) (by omega)) _

/-- The number of continuation bytes of a scalar value. -/
def continuations (n : Nat) : Nat :=
  if n < 0x80 then 0 else if n < 0x800 then 1 else if n < 0x10000 then 2 else 3

/-- The mark of a first byte that so many continuation bytes follow. -/
def mark : Nat → Nat
  | 0 => 0
  | 1 => 0xc0
  | 2 => 0xe0
  | _ => 0xf0

/-- The first byte of a scalar value. -/
def first (n : Nat) : Nat :=
  mark (continuations n) + leading (continuations n) n

/-- The four forms of an encoding. -/
theorem form_cases (n : Nat) :
    (n < 0x80 ∧ continuations n = 0 ∧ first n = n) ∨
    (0x80 ≤ n ∧ n < 0x800 ∧ continuations n = 1 ∧ first n = 0xc0 + n / 64) ∨
    (0x800 ≤ n ∧ n < 0x10000 ∧ continuations n = 2 ∧ first n = 0xe0 + n / 64 / 64) ∨
    (0x10000 ≤ n ∧ continuations n = 3 ∧ first n = 0xf0 + n / 64 / 64 / 64) := by
  unfold first continuations
  by_cases h1 : n < 0x80
  · simp [h1, mark, leading]
  by_cases h2 : n < 0x800
  · simp [h1, h2, mark, leading, Nat.not_lt.mp h1]
  by_cases h3 : n < 0x10000
  · simp [h1, h2, h3, mark, leading, Nat.not_lt.mp h2]
  · simp [h1, h2, h3, mark, leading, Nat.not_lt.mp h3]

theorem toNat_lt (c : Char) : c.toNat < 0x110000 := by
  have hvalid : c.toNat < 0xd800 ∨ 0xdfff < c.toNat ∧ c.toNat < 0x110000 := c.valid
  omega

theorem first_lt {n : Nat} (hn : n < 0x110000) : first n < 256 := by
  have hform := form_cases n
  omega

/-- The more bytes a scalar value takes, the larger is the first. -/
theorem first_lt_first {m n : Nat} (h : m < n) (hne : continuations m ≠ continuations n) :
    first m < first n := by
  have hm := form_cases m
  have hn := form_cases n
  omega

theorem utf8EncodeChar_eq (c : Char) : String.utf8EncodeChar c =
    digits (mark (continuations c.toNat)) (continuations c.toNat) c.toNat := by
  have hmax := toNat_lt c
  have hval : c.val.toNat = c.toNat := rfl
  unfold String.utf8EncodeChar
  simp only [hval]
  generalize c.toNat = n at *
  obtain ⟨h, hk, -⟩ | ⟨h, h', hk, -⟩ | ⟨h, h', hk, -⟩ | ⟨h, hk, -⟩ := form_cases n
  · rw [hk, if_pos (by omega), mark, digits, Nat.zero_add]
  · have hfirst : n / 64 % 0x20 + 0xc0 = 0xc0 + n / 64 := by omega
    rw [hk, if_neg (by omega), if_pos (by omega), hfirst, Nat.add_comm (n % 0x40)]
    rfl
  · have hfirst : n / 4096 % 0x10 + 0xe0 = 0xe0 + n / 64 / 64 := by omega
    rw [hk, if_neg (by omega), if_neg (by omega), if_pos (by omega), hfirst,
      Nat.add_comm (n / 64 % 0x40), Nat.add_comm (n % 0x40)]
    rfl
  · have hfirst : n / 262144 % 0x08 + 0xf0 = 0xf0 + n / 64 / 64 / 64 := by omega
    have hnext : n / 4096 % 0x40 + 0x80 = 0x80 + n / 64 / 64 % 64 := by omega
    rw [hk, if_neg (by omega), if_neg (by omega), if_neg (by omega), hfirst, hnext,
      Nat.add_comm (n / 64 % 0x40), Nat.add_comm (n % 0x40)]
    rfl

/-- A character with a smaller scalar value has a smaller encoding, whatever follows. -/
theorem encode_precedes {c d : Char} (h : c.toNat < d.toNat) :
    Precedes (String.utf8EncodeChar c) (String.utf8EncodeChar d) := by
  have hd := first_lt (toNat_lt d)
  rw [utf8EncodeChar_eq, utf8EncodeChar_eq]
  by_cases hk : continuations c.toNat = continuations d.toNat
  · rw [hk]
    exact digits_precedes h hd
  · obtain ⟨rest, hrest⟩ := digits_eq_cons (mark (continuations c.toNat)) _ c.toNat
    obtain ⟨rest', hrest'⟩ := digits_eq_cons (mark (continuations d.toNat)) _ d.toNat
    rw [hrest, hrest']
    exact .of_first (first_lt_first h hk) hd

theorem utf8EncodeChar_eq_cons (c : Char) : ∃ x rest, String.utf8EncodeChar c = x :: rest := by
  obtain ⟨rest, hrest⟩ := digits_eq_cons (mark (continuations c.toNat)) _ c.toNat
  exact ⟨_, rest, (utf8EncodeChar_eq c).trans hrest⟩

theorem compare_encodings (cs ds : List Char) :
    compare (cs.flatMap String.utf8EncodeChar) (ds.flatMap String.utf8EncodeChar) =
      compare (cs.map Char.toNat) (ds.map Char.toNat) := by
  induction cs generalizing ds with
  | nil =>
    cases ds with
    | nil => rfl
    | cons d ds =>
      obtain ⟨x, rest, hd⟩ := utf8EncodeChar_eq_cons d
      rw [List.flatMap_cons, hd]
      rfl
  | cons c cs ih =>
    cases ds with
    | nil =>
      obtain ⟨x, rest, hc⟩ := utf8EncodeChar_eq_cons c
      rw [List.flatMap_cons, hc]
      rfl
    | cons d ds =>
      rw [List.flatMap_cons, List.flatMap_cons, List.map_cons, List.map_cons,
        List.compare_cons_cons]
      obtain hlt | heq | hgt := Nat.lt_trichotomy c.toNat d.toNat
      · rw [encode_precedes hlt, Nat.compare_eq_lt.mpr hlt]
        rfl
      · obtain rfl := Char.toNat_inj.mp heq
        rw [compare_append_left, ih, Std.ReflOrd.compare_self]
        rfl
      · -- The same the other way round.
        have hprecedes := encode_precedes hgt (ds.flatMap String.utf8EncodeChar)
          (cs.flatMap String.utf8EncodeChar)
        rw [Std.OrientedCmp.gt_iff_lt.mpr hprecedes, Nat.compare_eq_gt.mpr hgt]
        rfl

instance transCmp_order : Std.TransCmp order where
  eq_swap := Std.OrientedOrd.eq_swap
  isLE_trans := Std.TransOrd.isLE_trans

/-- Texts compare by their scalar values. -/
theorem order_eq_compare (a b : String) : order a b = compare (scalars a) (scalars b) :=
  compare_encodings a.toList b.toList

-- In sixteen-bit units the second character would begin with a surrogate and come first.
example : order "\uff5e" (String.singleton (Char.ofNat 0x1f600)) = .lt := by decide

end Scriptlet.Text
