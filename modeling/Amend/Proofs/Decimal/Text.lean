import Amend.Decimal.Basic

/-!
# Decimals read back from their text

The text of a finite decimal spells that decimal and no other: sign, coefficient and exponent all come
back (`ofText?_text`). The reader takes a run of digits, perhaps a point with more digits, and what is
left as the exponent. Each of the layouts that `magnitudeChars` chooses between has one of these two
forms, so the reader is described once for each form and each layout is an instance.
-/

namespace Amend.Decimal

/-- No digit stands at the front. -/
def NoDigitAhead (cs : List Char) : Prop :=
  ∀ c rest, cs = c :: rest → c.isDigit = false

/-- Nothing stands at the front of nothing. -/
theorem noDigitAhead_nil : NoDigitAhead [] := by
  intro c rest h
  cases h

/-- A character that is no digit at the front. -/
theorem noDigitAhead_cons {c : Char} (h : c.isDigit = false) (rest : List Char) :
    NoDigitAhead (c :: rest) := by
  rintro _ _ ⟨⟩
  exact h

/-! ## Runs of digits -/

/-- The digits of a number are digits. -/
theorem isDigit_of_mem_digits {n : Nat} {c : Char} (h : c ∈ Nat.toDigits 10 n) : c.isDigit = true :=
  Nat.isDigit_of_mem_toDigits (by decide) (by decide) h

/-- Zeros are digits too. -/
theorem isDigit_of_mem_zeros_digits (zeros n : Nat) :
    ∀ c ∈ List.replicate zeros '0' ++ Nat.toDigits 10 n, c.isDigit = true := by
  intro c hc
  rcases List.mem_append.1 hc with hc | hc
  · rw [List.eq_of_mem_replicate hc]
    rfl
  · exact isDigit_of_mem_digits hc

/-- A run of digits ends where no digit follows. -/
theorem takeWhile_digits {ds tail : List Char} (hd : ∀ c ∈ ds, c.isDigit = true)
    (ht : NoDigitAhead tail) : (ds ++ tail).takeWhile Char.isDigit = ds := by
  rw [List.takeWhile_append_of_pos hd]
  cases tail with
  | nil => simp
  | cons c rest => simp [ht c rest rfl]

/-- What follows a run of digits. -/
theorem dropWhile_digits {ds tail : List Char} (hd : ∀ c ∈ ds, c.isDigit = true)
    (ht : NoDigitAhead tail) : (ds ++ tail).dropWhile Char.isDigit = tail := by
  rw [List.dropWhile_append_of_pos hd]
  cases tail with
  | nil => rfl
  | cons c rest => simp [ht c rest rfl]

/-- Digits in front of which zeros stand spell the same number. -/
theorem ofDigitChars_zeros (k n : Nat) :
    Nat.ofDigitChars 10 (List.replicate k '0' ++ Nat.toDigits 10 n) 0 = n := by
  rw [Nat.ofDigitChars_append, Nat.ofDigitChars_replicate_zero, Nat.mul_zero,
    Nat.ofDigitChars_ten_toDigits]

/-- Digits behind which zeros stand spell a multiple by a power of ten. -/
theorem ofDigitChars_append_zeros (c k : Nat) :
    Nat.ofDigitChars 10 (Nat.toDigits 10 c ++ List.replicate k '0') 0 = c * 10 ^ k := by
  rw [Nat.ofDigitChars_append, Nat.ofDigitChars_ten_toDigits, Nat.ofDigitChars_replicate_zero, Nat.mul_comm]

/-! ## Exponents -/

/-- An exponent with an explicit sign reads back, whatever zeros stand before its digits. -/
theorem readExponent?_signed {mark : Char} (hmark : mark = 'e' ∨ mark = 'E') (zeros : Nat) (e : Int) :
    readExponent? (mark :: (if e < 0 then '-' else '+') ::
      (List.replicate zeros '0' ++ Nat.toDigits 10 e.natAbs)) = some e := by
  have hall := isDigit_of_mem_zeros_digits zeros e.natAbs
  have hdigits : readNat? (List.replicate zeros '0' ++ Nat.toDigits 10 e.natAbs) = some e.natAbs := by
    rw [readNat?, if_pos ⟨by simp [Nat.toDigits_ne_nil], List.all_eq_true.2 hall⟩, ofDigitChars_zeros]
  have hsign : ∀ rest, readSign ((if e < 0 then '-' else '+') :: rest) = (decide (e < 0), rest) := by
    intro rest
    by_cases he : e < 0
    · rw [if_pos he, decide_eq_true he]
      rfl
    · rw [if_neg he, decide_eq_false he]
      rfl
  rw [readExponent?, if_pos hmark, hsign, hdigits]
  show some (if decide (e < 0) = true then -(e.natAbs : Int) else (e.natAbs : Int)) = some e
  simp only [Option.some.injEq, decide_eq_true_eq]
  split <;> omega

/-- A written exponent reads back. -/
theorem readExponent?_exponentChars (e : Int) : readExponent? (exponentChars e) = some e :=
  readExponent?_signed (Or.inr rfl) 0 e

/-- A written exponent has no digit at its front. -/
theorem noDigitAhead_exponentChars (e : Int) : NoDigitAhead (exponentChars e) :=
  noDigitAhead_cons rfl _

/-! ## The two forms -/

/-- Reads digits without a point, and what follows them. -/
theorem readFinite?_whole {whole tail : List Char} {x : Int} (n : Bool) (hne : whole ≠ [])
    (hw : ∀ c ∈ whole, c.isDigit = true) (ht : NoDigitAhead tail) (hpoint : tail.head? ≠ some '.')
    (hx : readExponent? tail = some x) :
    readFinite? n (whole ++ tail) = some (.finite n (Nat.ofDigitChars 10 whole 0) x) := by
  rw [readFinite?, takeWhile_digits hw ht, dropWhile_digits hw ht]
  cases tail with
  | nil =>
    obtain rfl : x = 0 := (Option.some.inj hx).symm
    simp [hne, readExponent?]
  | cons c rest =>
    have hc : c ≠ '.' := fun h => hpoint (by rw [h]; rfl)
    simp [hne, hc, hx]

/-- Reads digits with a point among them, and what follows them. -/
theorem readFinite?_pointed {whole fraction tail : List Char} {x : Int} (n : Bool) (hne : whole ≠ [])
    (hw : ∀ c ∈ whole, c.isDigit = true) (hf : ∀ c ∈ fraction, c.isDigit = true)
    (ht : NoDigitAhead tail) (hx : readExponent? tail = some x) :
    readFinite? n (whole ++ '.' :: (fraction ++ tail)) =
      some (.finite n (Nat.ofDigitChars 10 (whole ++ fraction) 0) (x - fraction.length)) := by
  have hpoint : NoDigitAhead ('.' :: (fraction ++ tail)) := noDigitAhead_cons rfl _
  rw [readFinite?, takeWhile_digits hw hpoint, dropWhile_digits hw hpoint]
  simp only [takeWhile_digits hf ht, dropWhile_digits hf ht, hx, Option.map_some]
  rw [if_neg (by simp [hne])]

/-! ## Reading back -/

/-- The digits of a coefficient around a point read back, with the exponent that follows them. -/
theorem readFinite?_pointed_digits {c : Nat} {place x : Int} {tail : List Char} (n : Bool)
    (ht : NoDigitAhead tail) (hpoint : tail.head? ≠ some '.') (hx : readExponent? tail = some x)
    (hplace : place ≤ digitCount c) :
    readFinite? n (pointed (Nat.toDigits 10 c) place ++ tail) =
      some (.finite n c (x + place - digitCount c)) := by
  have hlen : (Nat.toDigits 10 c).length = digitCount c := rfl
  rw [pointed]
  split
  · -- the number is below one: a zero, the point, and perhaps more zeros
    rename_i hle
    have hf := isDigit_of_mem_zeros_digits place.natAbs c
    have hread := readFinite?_pointed n (List.cons_ne_nil '0' []) (by simp) hf ht hx
    rw [List.singleton_append] at hread
    have hzeros : ['0'] ++ (List.replicate place.natAbs '0' ++ Nat.toDigits 10 c) =
        List.replicate (place.natAbs + 1) '0' ++ Nat.toDigits 10 c := rfl
    rw [List.cons_append, List.cons_append, hread, hzeros, ofDigitChars_zeros]
    simp only [List.length_append, List.length_replicate, hlen]
    congr 2
    omega
  · split
    · -- all digits stand before the point, which is left out
      rename_i hlt hge
      have hfull : place = digitCount c := by omega
      have hpad : place.natAbs - (Nat.toDigits 10 c).length = 0 := by omega
      rw [hpad, List.replicate_zero, List.append_nil,
        readFinite?_whole n Nat.toDigits_ne_nil (fun _ => isDigit_of_mem_digits) ht hpoint hx,
        Nat.ofDigitChars_ten_toDigits]
      congr 2
      omega
    · -- the point stands among the digits
      rename_i hlt hge
      have hne : (Nat.toDigits 10 c).take place.natAbs ≠ [] := by
        rw [← List.length_pos_iff, List.length_take]
        omega
      rw [List.append_assoc, List.cons_append,
        readFinite?_pointed n hne (fun _ h => isDigit_of_mem_digits (List.mem_of_mem_take h))
          (fun _ h => isDigit_of_mem_digits (List.mem_of_mem_drop h)) ht hx,
        List.take_append_drop, Nat.ofDigitChars_ten_toDigits, List.length_drop, hlen]
      congr 2
      omega

/-- The characters of a finite decimal without its sign read back. -/
theorem readFinite?_magnitudeChars (n : Bool) (c : Nat) (e : Int) :
    readFinite? n (magnitudeChars c e) = some (.finite n c e) := by
  have hpos := digitCount_pos c
  have hlen : (Nat.toDigits 10 c).length = digitCount c := rfl
  simp only [magnitudeChars, hlen]
  split
  · rename_i h
    have hread : readFinite? n (pointed (Nat.toDigits 10 c) (e + digitCount c) ++ []) =
        some (.finite n c (0 + (e + digitCount c) - digitCount c)) :=
      readFinite?_pointed_digits n noDigitAhead_nil (by simp) rfl (by omega)
    rw [List.append_nil] at hread
    rw [hread]
    congr 2
    omega
  · rw [readFinite?_pointed_digits n (noDigitAhead_exponentChars _) (by simp [exponentChars])
      (readExponent?_exponentChars _) (by omega)]
    congr 2
    omega

/-- Digits around a point start with a digit, whatever follows them. -/
theorem exists_cons_pointed (c : Nat) (place : Int) (tail : List Char) :
    ∃ d rest, pointed (Nat.toDigits 10 c) place ++ tail = d :: rest ∧ d.isDigit = true := by
  obtain ⟨d, ds, hd⟩ := List.exists_cons_of_ne_nil (Nat.toDigits_ne_nil (n := c) (b := 10))
  have hdigit : d.isDigit = true := isDigit_of_mem_digits (n := c) (by rw [hd]; simp)
  rw [pointed]
  split
  · exact ⟨'0', _, rfl, rfl⟩
  · split
    · exact ⟨d, _, by rw [hd]; rfl, hdigit⟩
    · obtain ⟨k, hk⟩ : ∃ k, place.natAbs = k + 1 := ⟨place.natAbs - 1, by omega⟩
      exact ⟨d, _, by rw [hd, hk]; rfl, hdigit⟩

/-- The characters of a finite decimal without its sign start with a digit. -/
theorem exists_cons_magnitudeChars (c : Nat) (e : Int) :
    ∃ d rest, magnitudeChars c e = d :: rest ∧ d.isDigit = true := by
  simp only [magnitudeChars]
  split
  · simpa using exists_cons_pointed c _ []
  · exact exists_cons_pointed c _ _

/-- The sign of a decimal is read off its front. -/
theorem readSign_signChars (n : Bool) {c : Char} (h : c.isDigit = true) (rest : List Char) :
    readSign (signChars n ++ c :: rest) = (n, c :: rest) := by
  cases n with
  | true => rfl
  | false =>
    have hminus : c ≠ '-' := by
      rintro rfl
      exact absurd h (by decide)
    have hplus : c ≠ '+' := by
      rintro rfl
      exact absurd h (by decide)
    simp [signChars, readSign, hminus, hplus]

/-- What reads as a number, and starts with a digit, reads with a sign in front of it. -/
theorem ofChars?_signChars {n : Bool} {cs : List Char} {d : Decimal}
    (hdigit : ∃ c rest, cs = c :: rest ∧ c.isDigit = true) (hread : readFinite? n cs = some d) :
    ofChars? (signChars n ++ cs) = some d := by
  obtain ⟨c, rest, rfl, hc⟩ := hdigit
  rw [ofChars?, readSign_signChars n hc]
  show (readFinite? n (c :: rest)).or _ = _
  rw [hread, Option.some_or]

/-- A finite decimal is read back from its text as it was written. -/
theorem ofText?_text {d : Decimal} (h : d.isFinite = true) : ofText? d.text = some d := by
  cases d with
  | finite n c e =>
    rw [ofText?, text, String.toList_ofList]
    exact ofChars?_signChars (exists_cons_magnitudeChars c e) (readFinite?_magnitudeChars n c e)
  | infinite n => cases h
  | nan n s p m => cases h

end Amend.Decimal
