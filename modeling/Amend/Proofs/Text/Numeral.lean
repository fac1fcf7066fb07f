import Mathlib.Algebra.GroupWithZero.Nat
import Mathlib.Data.Char
import Mathlib.Data.List.Lex
import Mathlib.Order.Lattice
import Amend.Text.Padded

/-!
# Numbers of fixed width

A number can be written with zeros in front, so that it takes a certain number of digits (`Spells`). A text that is
made of such numbers, each with a mark behind it, has a layout (`Shows`). As every number of a layout has a place of its
own, texts of one layout are ordered like the rows of numbers that they show, and no two of them show the same row.
-/

namespace Amend.Text

/-! ## Numbers -/

/-- Digits, as many as a width, that are a number. -/
structure Spells (width : Nat) (digits : List Char) (n : Nat) : Prop where
  length : digits.length = width
  digit : ∀ c ∈ digits, c.isDigit = true
  value : Nat.ofDigitChars 10 digits 0 = n

/-- A padded number spells that number, if the number fits. -/
theorem spells_padded {width n : Nat} (hwidth : 0 < width) (h : n < 10 ^ width) :
    Spells width (padded width n) n where
  length := length_padded hwidth h
  digit := by
    intro c hc
    rcases List.mem_append.1 hc with hc | hc
    · rw [List.eq_of_mem_replicate hc]
      rfl
    · exact Nat.isDigit_of_mem_toDigits (by decide) (by decide) hc
  value := by
    rw [padded, Nat.ofDigitChars_append, Nat.ofDigitChars_replicate_zero, Nat.mul_zero,
      Nat.ofDigitChars_toDigits (by decide) (by decide)]

/-- The value of a digit. -/
def digitOf (c : Char) : Nat := c.toNat - 48

/-- The digits are ten characters in a row. -/
theorem toNat_of_isDigit {c : Char} (h : c.isDigit = true) : 48 ≤ c.toNat ∧ c.toNat ≤ 57 :=
  Char.isDigit_iff_toNat.1 h

/-- Digits are ordered like their values. -/
theorem lt_iff_digitOf_lt {c d : Char} (hc : c.isDigit = true) (hd : d.isDigit = true) :
    c < d ↔ digitOf c < digitOf d := by
  have hc := toNat_of_isDigit hc
  have hd := toNat_of_isDigit hd
  change c.toNat < d.toNat ↔ _
  unfold digitOf
  omega

/-- Digits of the same value are the same. -/
theorem eq_iff_digitOf_eq {c d : Char} (hc : c.isDigit = true) (hd : d.isDigit = true) :
    c = d ↔ digitOf c = digitOf d := by
  have hc := toNat_of_isDigit hc
  have hd := toNat_of_isDigit hd
  rw [← Char.toNat_inj]
  unfold digitOf
  omega

variable {width m n : Nat} {c : Char} {cs ds : List Char}

/-- The first digit counts for the most. -/
theorem spells_cons_iff : Spells (width + 1) (c :: cs) n ↔
    c.isDigit = true ∧ ∃ rest, Spells width cs rest ∧ n = digitOf c * 10 ^ width + rest := by
  have hvalue : Nat.ofDigitChars 10 (c :: cs) 0 =
      digitOf c * 10 ^ cs.length + Nat.ofDigitChars 10 cs 0 := by
    rw [Nat.ofDigitChars_cons, Nat.mul_zero, Nat.zero_add, Nat.ofDigitChars_eq_ofDigitChars_zero,
      Nat.mul_comm]
    rfl
  constructor
  · rintro ⟨hlength, hdigit, rfl⟩
    obtain rfl : cs.length = width := Nat.succ.inj hlength
    exact ⟨hdigit c List.mem_cons_self, _, ⟨rfl, fun d hd => hdigit d (List.mem_cons_of_mem c hd), rfl⟩, hvalue⟩
  · rintro ⟨hc, rest, ⟨rfl, hdigit, rfl⟩, rfl⟩
    exact ⟨rfl, List.forall_mem_cons.2 ⟨hc, hdigit⟩, hvalue⟩

/-- A number of a certain width is less than the power of ten with that exponent. -/
theorem Spells.lt_pow (h : Spells width cs n) : n < 10 ^ width := by
  induction width generalizing cs n with
  | zero =>
    obtain rfl := List.eq_nil_of_length_eq_zero h.length
    rw [← h.value]
    decide
  | succ width ih =>
    obtain ⟨c, cs, rfl⟩ := List.exists_cons_of_length_eq_add_one h.length
    obtain ⟨hc, rest, hrest, rfl⟩ := spells_cons_iff.1 h
    have hdigit : digitOf c + 1 ≤ 10 := by
      have hc := toNat_of_isDigit hc
      unfold digitOf
      omega
    calc digitOf c * 10 ^ width + rest
        < digitOf c * 10 ^ width + 10 ^ width := Nat.add_lt_add_left (ih hrest) _
      _ = (digitOf c + 1) * 10 ^ width := (Nat.succ_mul _ _).symm
      _ ≤ 10 * 10 ^ width := Nat.mul_le_mul_right _ hdigit
      _ = 10 ^ (width + 1) := by rw [Nat.pow_succ, Nat.mul_comm]

/-- The order of numbers whose first digits count for so much that what follows only matters where they are the
same. -/
theorem mul_add_lt_mul_add_iff {a b size m n : Nat} (hm : m < size) (hn : n < size) :
    a * size + m < b * size + n ↔ a < b ∨ a = b ∧ m < n := by
  have hless {x y : Nat} (h : x < y) : x * size + size ≤ y * size :=
    Nat.succ_mul x size ▸ Nat.mul_le_mul_right size h
  rcases Nat.lt_trichotomy a b with hab | rfl | hab
  · have hle := hless hab
    omega
  · omega
  · have hle := hless hab
    omega

/-- Numbers of the same width are ordered like their digits. -/
theorem Spells.lt_iff (hm : Spells width cs m) (hn : Spells width ds n) : cs < ds ↔ m < n := by
  induction width generalizing cs ds m n with
  | zero =>
    have hcs := hm.lt_pow
    have hds := hn.lt_pow
    rw [List.eq_nil_of_length_eq_zero hm.length, List.eq_nil_of_length_eq_zero hn.length]
    exact iff_of_false (List.not_lt_nil []) (by omega)
  | succ width ih =>
    obtain ⟨c, cs, rfl⟩ := List.exists_cons_of_length_eq_add_one hm.length
    obtain ⟨d, ds, rfl⟩ := List.exists_cons_of_length_eq_add_one hn.length
    obtain ⟨hc, p, hp, rfl⟩ := spells_cons_iff.1 hm
    obtain ⟨hd, q, hq, rfl⟩ := spells_cons_iff.1 hn
    -- what follows the first digit is less than its unit, so it only decides where the first digits are the same
    rw [List.cons_lt_cons_iff, mul_add_lt_mul_add_iff hp.lt_pow hq.lt_pow, lt_iff_digitOf_lt hc hd,
      eq_iff_digitOf_eq hc hd, ih hp hq]

/-- What is ordered alike is the same alike. -/
theorem eq_iff_eq_of_lt_iff_lt {α β : Type} [LinearOrder α] [LinearOrder β] {a b : α} {x y : β} (h : a < b ↔ x < y)
    (h' : b < a ↔ y < x) : a = b ↔ x = y := by
  rw [le_antisymm_iff, le_antisymm_iff, ← not_lt, ← not_lt, ← not_lt, ← not_lt, h, h']

/-- Numbers of the same width are the same just if their digits are. -/
theorem Spells.eq_iff (hm : Spells width cs m) (hn : Spells width ds n) : cs = ds ↔ m = n :=
  eq_iff_eq_of_lt_iff_lt (hm.lt_iff hn) (hn.lt_iff hm)

/-! ## Layouts -/

/-- The widths of the numbers in a text, each with the mark that follows. -/
abbrev Layout := List (Nat × Char)

/-- A text has a layout, and these numbers in it. -/
inductive Shows : Layout → List Nat → List Char → Prop
  | nil : Shows [] [] []
  | cons {width n : Nat} {mark : Char} {digits cs : List Char} {layout : Layout} {ns : List Nat}
      (number : Spells width digits n) (rest : Shows layout ns cs) :
      Shows ((width, mark) :: layout) (n :: ns) (digits ++ mark :: cs)

/-- Behind beginnings of the same length, texts are compared only where the beginnings are the same. -/
theorem append_lt_append_iff {as bs xs ys : List Char} (h : as.length = bs.length) :
    as ++ xs < bs ++ ys ↔ as < bs ∨ as = bs ∧ xs < ys := by
  induction as generalizing bs with
  | nil =>
    obtain rfl := List.eq_nil_of_length_eq_zero h.symm
    simp only [List.nil_append, List.not_lt_nil, true_and, false_or]
  | cons a as ih =>
    obtain ⟨b, bs, rfl⟩ := List.exists_cons_of_length_eq_add_one h.symm
    simp only [List.cons_append, List.cons_lt_cons_iff, List.cons.injEq, ih (Nat.succ.inj h)]
    tauto

variable {layout : Layout} {ms ns : List Nat}

/-- The length of a text follows from its layout. -/
theorem Shows.length (h : Shows layout ns cs) : cs.length = (layout.map fun e => e.1 + 1).sum := by
  induction h with
  | nil => rfl
  | cons number rest ih =>
    rw [List.length_append, List.length_cons, number.length, ih, List.map_cons, List.sum_cons]
    omega

/-- Texts of the same layout are ordered like the numbers in them. -/
theorem Shows.lt_iff (hm : Shows layout ms cs) (hn : Shows layout ns ds) : cs < ds ↔ ms < ns := by
  induction hm generalizing ns ds with
  | nil =>
    cases hn
    exact iff_of_false (List.not_lt_nil []) (List.not_lt_nil [])
  | cons number rest ih =>
    obtain _ | ⟨number', rest'⟩ := hn
    have hlength := number.length.trans number'.length.symm
    -- the marks are those of the layout, so they never decide
    rw [append_lt_append_iff hlength, List.cons_lt_cons_iff, List.cons_lt_cons_iff, number.lt_iff number',
      number.eq_iff number', ih rest']
    simp only [Char.lt_irrefl, false_or, true_and]

/-- Texts of the same layout are the same just if the numbers in them are. -/
theorem Shows.eq_iff (hm : Shows layout ms cs) (hn : Shows layout ns ds) : cs = ds ↔ ms = ns :=
  eq_iff_eq_of_lt_iff_lt (hm.lt_iff hn) (hn.lt_iff hm)

end Amend.Text
