import Amend.Proofs.Calendar.Grammar
import Amend.Proofs.Decimal.Text
import Amend.Proofs.Entries

/-!
# The parts of a date pattern

Each piece of a date pattern takes a part of a date or a time of day as some manner writes it: the loose one for what
is read, and for the padded one what is read first. The pieces with digits are treated alike, by the tests that these
have to pass; the zone is the one piece of which more is known than what it takes, since its size is looked at too.
-/

namespace Amend.DatePattern

variable {test : Char → Bool} {tests : List (Char → Bool)} {options : List (List (Char → Bool))} {p : Piece}
  {cs : List Char} {c first last : Char} {most : Nat}

/-! ## Digits -/

/-- A test that only digits pass. -/
def DigitTest (test : Char → Bool) : Prop := ∀ c, test c = true → Text.isDigit c = true

theorem digitTest_isDigit : DigitTest Text.isDigit := fun _ h => h

/-- The characters between two digits are digits. -/
theorem isDigit_of_within (hfirst : '0' ≤ first) (hlast : last ≤ '9') (h : within first last c = true) :
    c.isDigit = true := by
  obtain ⟨hle, hge⟩ : first ≤ c ∧ c ≤ last := by simpa [within] using h
  exact Char.isDigit_iff_toNat.2 ⟨hfirst.trans hle, hge.trans hlast⟩

theorem digitTest_within (hfirst : '0' ≤ first) (hlast : last ≤ '9') : DigitTest (within first last) :=
  fun _ h => Text.isDigit_of_isDigit (isDigit_of_within hfirst hlast h)

theorem digitTest_only (hdigit : c.isDigit = true) : DigitTest (only c) := by
  intro d hd
  obtain rfl : d = c := eq_of_beq hd
  exact Text.isDigit_of_isDigit hdigit

/-- Tests that only digits pass, at least one and at most so many. -/
structure Digital (most : Nat) (tests : List (Char → Bool)) : Prop where
  ne_nil : tests ≠ []
  length : tests.length ≤ most
  digit : ∀ test ∈ tests, DigitTest test

/-- What passes tests of digits is a number. -/
theorem isNumber_of_fits (h : Digital most tests) (hfits : Fits tests cs) :
    Text.IsNumber most cs (numberOf cs) := by
  have hdigit : ∀ c ∈ cs, Text.isDigit c = true := by
    intro c hc
    obtain ⟨test, htest, hpass⟩ := exists_of_mem_forall₂ hfits.flip hc
    exact h.digit test htest c hpass
  refine ⟨?_, hfits.length_eq ▸ h.length, hdigit, ?_⟩
  · rintro rfl
    exact h.ne_nil (List.forall₂_nil_right_iff.1 hfits)
  · rw [numberOf, List.filter_eq_self.2 hdigit]

/-- What a piece takes by tests of digits is a number. -/
theorem isNumber_of_takes (hways : p.ways = choices options) (hoptions : ∀ tests ∈ options, Digital most tests)
    (h : Takes p cs) : Text.IsNumber most cs (numberOf cs) := by
  obtain ⟨text, rest, hway⟩ := h
  rw [hways] at hway
  obtain ⟨tests, htests, hfits, -⟩ := mem_choices_iff.1 hway
  exact isNumber_of_fits (hoptions tests htests) hfits

/-- The first of some characters passes the first of some tests. -/
theorem fits_cons_iff : Fits (test :: tests) cs ↔ ∃ a rest, test a = true ∧ Fits tests rest ∧ cs = a :: rest :=
  List.forall₂_cons_left_iff

/-- No characters pass no tests. -/
theorem fits_nil_iff : Fits [] cs ↔ cs = [] := List.forall₂_nil_left_iff

/-- A character that passes a test. -/
theorem fits_singleton_iff : Fits [test] cs ↔ ∃ a, cs = [a] ∧ test a = true := by
  rw [fits_cons_iff]
  constructor
  · rintro ⟨a, rest, ha, hrest, rfl⟩
    exact ⟨a, by rw [fits_nil_iff.1 hrest], ha⟩
  · rintro ⟨a, rfl, ha⟩
    exact ⟨a, [], ha, fits_nil_iff.2 rfl, rfl⟩

/-- Two characters that pass their tests. -/
theorem fits_pair_iff {test' : Char → Bool} :
    Fits [test, test'] cs ↔ ∃ a b, cs = [a, b] ∧ test a = true ∧ test' b = true := by
  rw [fits_cons_iff]
  constructor
  · rintro ⟨a, rest, ha, hrest, rfl⟩
    obtain ⟨b, rfl, hb⟩ := fits_singleton_iff.1 hrest
    exact ⟨a, b, rfl, ha, hb⟩
  · rintro ⟨a, b, rfl, ha, hb⟩
    exact ⟨a, [b], ha, fits_singleton_iff.2 ⟨b, rfl, hb⟩, rfl⟩

/-! ## What is read -/

theorem digital_iff : Digital most tests ↔ tests ≠ [] ∧ tests.length ≤ most ∧ ∀ test ∈ tests, DigitTest test :=
  ⟨fun h => ⟨h.ne_nil, h.length, h.digit⟩, fun ⟨hne, hlength, hdigit⟩ => ⟨hne, hlength, hdigit⟩⟩

theorem isNumber_of_takes_year (h : Takes .year cs) : Text.IsNumber 4 cs (numberOf cs) :=
  isNumber_of_takes rfl (by simp [digital_iff, digitTest_isDigit]) h

theorem isNumber_of_takes_month (h : Takes .month cs) : Text.IsNumber 2 cs (numberOf cs) :=
  isNumber_of_takes rfl (by simp [digital_iff, digitTest_within, digitTest_only]) h

theorem isNumber_of_takes_hour (h : Takes .hour cs) : Text.IsNumber 2 cs (numberOf cs) :=
  isNumber_of_takes rfl (by simp [digital_iff, digitTest_isDigit, digitTest_within, digitTest_only]) h

theorem isNumber_of_takes_minute (h : Takes .minute cs) : Text.IsNumber 2 cs (numberOf cs) :=
  isNumber_of_takes rfl (by simp [digital_iff, digitTest_isDigit, digitTest_within]) h

theorem isNumber_of_takes_second (h : Takes .second cs) : Text.IsNumber 2 cs (numberOf cs) :=
  isNumber_of_takes rfl (by simp [digital_iff, digitTest_isDigit, digitTest_within, digitTest_only]) h

/-- A day has one or two digits, or one behind a blank. -/
theorem day_of_takes (h : Takes .day cs) : Manner.loose.day cs (numberOf cs) := by
  let plain : List (List (Char → Bool)) := [[only '3', within '0' '1'], [within '1' '2', Text.isDigit],
    [only '0', within '1' '9'], [within '1' '9']]
  have hplain : ∀ tests ∈ plain, Digital 2 tests := by
    simp [plain, digital_iff, digitTest_isDigit, digitTest_within, digitTest_only]
  obtain ⟨text, rest, hway⟩ := h
  obtain ⟨tests, htests, hfits, -⟩ := mem_choices_iff.1 hway
  -- only the last of the ways is not one of digits alone
  rcases List.mem_append.1 (show tests ∈ plain ++ [[only ' ', within '1' '9']] from htests) with htests | htests
  · exact .inl (isNumber_of_fits (hplain tests htests) hfits)
  · obtain rfl := List.mem_singleton.1 htests
    obtain ⟨a, b, rfl, ha, hb⟩ := fits_pair_iff.1 hfits
    obtain rfl : a = ' ' := eq_of_beq ha
    have hdigital : Digital 1 [within '1' '9'] := by simp [digital_iff, digitTest_within]
    have hnumber : numberOf [' ', b] = numberOf [b] := by
      rw [numberOf, List.filter_cons_of_neg (by decide), numberOf]
    exact .inr ⟨b, rfl, hnumber ▸ isNumber_of_fits hdigital (fits_singleton_iff.2 ⟨b, rfl, hb⟩)⟩

/-- A digit up to another one is no greater. -/
theorem valueOf_le_of_within (hfirst : '0' ≤ first) (hlast : last ≤ '9') (h : within first last c = true) :
    Text.valueOf c ≤ Text.digitOf last := by
  have hc := isDigit_of_within hfirst hlast h
  have hle : c.toNat ≤ last.toNat := by
    obtain ⟨-, hle⟩ : first ≤ c ∧ c ≤ last := by simpa [within] using h
    exact hle
  rw [Text.valueOf_of_isDigit hc]
  exact Nat.sub_le_sub_right hle 48

/-- The hours of a clock. -/
theorem numberOf_le_of_takes_hour (h : Takes .hour cs) : numberOf cs ≤ 23 := by
  rw [numberOf, List.filter_eq_self.2 (isNumber_of_takes_hour h).digit]
  obtain ⟨text, rest, hway⟩ := h
  obtain ⟨tests, htests, hfits, -⟩ := mem_choices_iff.1 hway
  simp only [List.mem_cons, List.not_mem_nil, or_false] at htests
  rcases htests with rfl | rfl | rfl
  · obtain ⟨a, b, rfl, ha, hb⟩ := fits_pair_iff.1 hfits
    obtain rfl : a = '2' := eq_of_beq ha
    have htwo : Text.valueOf '2' = 2 := by decide
    have hb : Text.valueOf b ≤ 3 := valueOf_le_of_within (by decide) (by decide) hb
    rw [Text.digitsValue_pair]
    omega
  · obtain ⟨a, b, rfl, ha, -⟩ := fits_pair_iff.1 hfits
    have ha : Text.valueOf a ≤ 1 := valueOf_le_of_within (by decide) (by decide) ha
    have hb := Text.valueOf_le b
    rw [Text.digitsValue_pair]
    omega
  · obtain ⟨a, rfl, -⟩ := fits_singleton_iff.1 hfits
    have ha := Text.valueOf_le a
    rw [Text.digitsValue_singleton]
    omega

/-- Two digits of which the first is at most five. -/
theorem digitsValue_le_of_within {a b : Char} (h : within '0' '5' a = true) : Text.digitsValue [a, b] ≤ 59 := by
  have ha : Text.valueOf a ≤ 5 := valueOf_le_of_within (by decide) (by decide) h
  have hb := Text.valueOf_le b
  rw [Text.digitsValue_pair]
  omega

/-- The minutes of an hour. -/
theorem numberOf_le_of_takes_minute (h : Takes .minute cs) : numberOf cs ≤ 59 := by
  rw [numberOf, List.filter_eq_self.2 (isNumber_of_takes_minute h).digit]
  obtain ⟨text, rest, hway⟩ := h
  obtain ⟨tests, htests, hfits, -⟩ := mem_choices_iff.1 hway
  simp only [List.mem_cons, List.not_mem_nil, or_false] at htests
  rcases htests with rfl | rfl
  · obtain ⟨a, b, rfl, ha, -⟩ := fits_pair_iff.1 hfits
    exact digitsValue_le_of_within ha
  · obtain ⟨a, rfl, -⟩ := fits_singleton_iff.1 hfits
    have ha := Text.valueOf_le a
    rw [Text.digitsValue_singleton]
    omega

/-- A fraction of a second has at most six digits. -/
theorem fraction_of_takes (h : Takes .fraction cs) : cs ≠ [] ∧ cs.length ≤ 6 ∧ ∀ c ∈ cs, c.isDigit = true := by
  obtain ⟨text, rest, hway⟩ := h
  obtain ⟨-, hne, hlength, hdigit⟩ := of_mem_runs hway
  exact ⟨hne, hlength, fun c hc => isDigit_of_within (by decide) (by decide) (hdigit c hc)⟩

/-- What stands for itself is one character. -/
theorem literal_of_takes (h : Takes (.literal c) cs) : ∃ x, cs = [x] ∧ anyCase c x = true := by
  obtain ⟨text, rest, hway⟩ := h
  obtain ⟨tests, htests, hfits, -⟩ := mem_choices_iff.1 hway
  obtain rfl := List.mem_singleton.1 htests
  exact fits_singleton_iff.1 hfits

/-- A mark is taken as it is. -/
theorem mark_of_takes (hmark : c ∈ ['-', ':', '.']) (h : Takes (.literal c) cs) : cs = [c] := by
  obtain ⟨x, rfl, hx⟩ := literal_of_takes h
  rw [anyCase_mark hmark hx]

/-- The letter between a date and a time of day is taken in either case. -/
theorem letter_of_takes (h : Takes (.literal 'T') cs) : ∃ x, cs = [x] ∧ Manner.loose.mark x := by
  obtain ⟨x, rfl, hx⟩ := literal_of_takes h
  exact ⟨x, rfl, anyCase_T hx⟩

/-! ## Zones -/

/-- The colon in front of a part of an offset, if there is one. -/
def colonOf (marked : Bool) : List Char := if marked then [':'] else []

/-- A digit is no colon. -/
theorem ne_colon_of_within (h : within '0' '5' c = true) : c ≠ ':' := by
  rintro rfl
  exact absurd h (by decide)

/-- Two digits are a number. -/
theorem isNumber_pair {a b : Char} (ha : Text.isDigit a = true) (hb : Text.isDigit b = true) :
    Text.IsNumber 2 [a, b] (Text.digitsValue [a, b]) := by
  refine ⟨List.cons_ne_nil _ _, Nat.le_refl 2, ?_, rfl⟩
  simp only [List.forall_mem_cons]
  exact ⟨ha, hb, List.forall_mem_nil _⟩

/-- So are two digits of which the first is at most five. -/
theorem isNumber_pair_of_within {a b : Char} (ha : within '0' '5' a = true) (hb : Text.isDigit b = true) :
    Text.IsNumber 2 [a, b] (Text.digitsValue [a, b]) :=
  isNumber_pair (digitTest_within (by decide) (by decide) a ha) hb

/-- Seconds of an offset are two digits, perhaps behind a colon. -/
theorem seconds_of_fits (htests : tests ∈ zoneSecondsTests) (h : Fits tests cs) :
    ∃ marked a b, cs = colonOf marked ++ [a, b] ∧ a ≠ ':' ∧ Text.IsNumber 2 [a, b] (Text.digitsValue [a, b]) := by
  simp only [zoneSecondsTests, List.mem_cons, List.not_mem_nil, or_false] at htests
  rcases htests with rfl | rfl
  · obtain ⟨colon, rest, hcolon, hrest, rfl⟩ := fits_cons_iff.1 h
    obtain rfl : colon = ':' := eq_of_beq hcolon
    obtain ⟨a, b, rfl, ha, hb⟩ := fits_pair_iff.1 hrest
    exact ⟨true, a, b, rfl, ne_colon_of_within ha, isNumber_pair_of_within ha hb⟩
  · obtain ⟨a, b, rfl, ha, hb⟩ := fits_pair_iff.1 h
    exact ⟨false, a, b, rfl, ne_colon_of_within ha, isNumber_pair_of_within ha hb⟩

/-- The size of seconds, which have a colon in front of them just if the minutes have one. -/
theorem zoneSeconds?_eq_some_iff {colon marked : Bool} {a b : Char} {more : List Char} {size : Nat} (ha : a ≠ ':') :
    zoneSeconds? colon (colonOf marked ++ a :: b :: more) = some size ↔
      marked = colon ∧ Text.digitsValue [a, b] * 1000000 + microseconds (more.drop 1) = size := by
  cases marked with
  | true => cases colon <;> simp [zoneSeconds?, colonOf]
  | false =>
    cases colon <;> simp [zoneSeconds?, colonOf, ha]

/-- Seconds of an offset that are divided from the minutes like these from the hours. -/
theorem zoneSeconds_of_zoneTail {colon : Bool} {size : Nat} (h : ZoneTail cs)
    (hsize : zoneSeconds? colon cs = some size) : ZoneSeconds (colonOf colon) cs size := by
  cases h with
  | none =>
    obtain rfl : 0 = size := Option.some.inj hsize
    exact .absent
  | seconds htests hss =>
    obtain ⟨marked, a, b, rfl, ha, hnumber⟩ := seconds_of_fits htests hss
    obtain ⟨rfl, rfl⟩ := (zoneSeconds?_eq_some_iff ha).1 hsize
    have hnone : microseconds (List.drop 1 ([] : List Char)) = 0 := by decide
    rw [hnone, Nat.add_zero]
    exact .whole hnumber
  | @fraction _ _ fs htests hss hne hlength hdigit =>
    obtain ⟨marked, a, b, rfl, ha, hnumber⟩ := seconds_of_fits htests hss
    rw [List.append_assoc] at hsize ⊢
    obtain ⟨rfl, rfl⟩ := (zoneSeconds?_eq_some_iff ha).1 hsize
    exact .fraction hnumber ⟨hne, hlength, hdigit, rfl⟩

/-- The size of an offset without a colon between hours and minutes. -/
theorem zoneSize?_plain {sign a b c d : Char} {tail : List Char} (hc : c ≠ ':') :
    zoneSize? (sign :: a :: b :: c :: d :: tail) = (zoneSeconds? false tail).map fun s =>
      Text.digitsValue [a, b] * 3600000000 + Text.digitsValue [c, d] * 60000000 + s := by
  -- the first pattern has a colon where this text has another character
  unfold zoneSize?
  split
  · next heq =>
    cases heq
    exact absurd rfl hc
  · next heq =>
    cases heq
    rfl
  · next hneither => exact absurd rfl (hneither _ _ _ _ _ _)

/-- An offset in hours and minutes, with a colon between them or without, and what follows these. -/
theorem offset_of_digits {marked : Bool} {sign a b d : Char} {tail : List Char} {size : Nat}
    (hsign : (sign == '+' || sign == '-') = true) (ha : Text.isDigit a = true) (hb : Text.isDigit b = true)
    (hc : within '0' '5' c = true) (hd : Text.isDigit d = true) (htail : ZoneTail tail)
    (hsize : zoneSeconds? marked tail = some size) :
    Manner.loose.WritesZone (sign :: ([a, b] ++ (colonOf marked ++ ([c, d] ++ tail))))
      (Text.digitsValue [a, b] * 3600000000 + Text.digitsValue [c, d] * 60000000 + size) := by
  have hseconds : Manner.loose.zoneSeconds (colonOf marked) tail size := zoneSeconds_of_zoneTail htail hsize
  refine .offset (by simpa using hsign) ?_ (isNumber_pair ha hb) (isNumber_pair_of_within hc hd)
    (digitsValue_le_of_within hc) hseconds
  cases marked
  · exact .inl rfl
  · exact .inr rfl

/-- An offset of which the size is known. -/
theorem zone_of_takes {size : Nat} (h : Takes .zone cs) (hsize : zoneSize? cs = some size) :
    Manner.loose.WritesZone cs size := by
  obtain ⟨text, rest, hway⟩ := h
  obtain ⟨-, rfl | ⟨tests, htests, minutes, tail, hfits, htail, rfl⟩⟩ := of_mem_zones hway
  · obtain rfl : 0 = size := Option.some.inj hsize
    exact .universal
  simp only [zoneMinutesTests, List.mem_cons, List.not_mem_nil, or_false] at htests
  rcases htests with rfl | rfl
  · simp only [fits_cons_iff, fits_nil_iff] at hfits
    obtain ⟨sign, _, hsign, ⟨a, _, ha, ⟨b, _, hb, ⟨colon, _, hcolon, ⟨c, _, hc, ⟨d, _, hd, rfl, rfl⟩, rfl⟩, rfl⟩,
      rfl⟩, rfl⟩, rfl⟩ := hfits
    obtain rfl : colon = ':' := eq_of_beq hcolon
    obtain ⟨seconds, hseconds, rfl⟩ := Option.map_eq_some_iff.1 hsize
    exact offset_of_digits hsign ha hb hc hd htail hseconds
  · simp only [fits_cons_iff, fits_nil_iff] at hfits
    obtain ⟨sign, _, hsign, ⟨a, _, ha, ⟨b, _, hb, ⟨c, _, hc, ⟨d, _, hd, rfl, rfl⟩, rfl⟩, rfl⟩, rfl⟩, rfl⟩ := hfits
    obtain ⟨seconds, hseconds, rfl⟩ :=
      Option.map_eq_some_iff.1 ((zoneSize?_plain (ne_colon_of_within hc)).symm.trans hsize)
    exact offset_of_digits hsign ha hb hc hd htail hseconds

/-! ## What is read first -/

variable {rest : List Char} {n width size : Nat}

/-- A number in full is read as that number. -/
theorem numberOf_of_spells (hwidth : 0 < width) (h : Text.Spells width cs n) : numberOf cs = n := by
  have hnumber := h.isNumber hwidth
  rw [numberOf, List.filter_eq_self.2 hnumber.digit, hnumber.value]

/-- Digits pass as many tests of digits. -/
theorem fits_replicate (h : ∀ c ∈ cs, c.isDigit = true) : Fits (List.replicate cs.length Text.isDigit) cs := by
  induction cs with
  | nil => exact .nil
  | cons c cs ih =>
    obtain ⟨hc, hcs⟩ := List.forall_mem_cons.1 h
    exact .cons (Text.isDigit_of_isDigit hc) (ih hcs)

/-- Four digits are a year. -/
theorem best_year (h : Text.Spells 4 cs n) : Best .year cs rest := by
  have hfits := fits_replicate h.digit
  rw [h.length] at hfits
  exact best_of_fits rfl hfits

/-- A piece that takes two characters at most takes a number of two digits first if it does so by itself. -/
theorem best_of_spells {least most : Nat} (hways : p.ways = choices options)
    (hlength : ∀ tests ∈ options, tests.length ≤ 2)
    (hclosed : ∀ k ≤ most, least ≤ k → (p.ways (Text.padded 2 k)).head? = some (Text.padded 2 k, []))
    (h : Text.Spells 2 cs n) (hfirst : least ≤ n) (hlast : n ≤ most) : Best p cs rest := by
  -- there is one way to write the number, so that all of them can be tried
  obtain rfl : cs = Text.padded 2 n := (h.eq_iff (Text.spells_padded (by decide) h.lt_pow)).2 rfl
  exact best_of_closed hways (fun tests htests => (hlength tests htests).trans h.length.ge) (hclosed n hlast hfirst)

theorem best_month (h : Text.Spells 2 cs n) (hfirst : 1 ≤ n) (hlast : n ≤ 12) : Best .month cs rest :=
  best_of_spells rfl (by simp) (by decide +kernel) h hfirst hlast

theorem best_day (h : Text.Spells 2 cs n) (hfirst : 1 ≤ n) (hlast : n ≤ 31) : Best .day cs rest :=
  best_of_spells rfl (by simp) (by decide +kernel) h hfirst hlast

theorem best_hour (h : Text.Spells 2 cs n) (hlast : n ≤ 23) : Best .hour cs rest :=
  best_of_spells rfl (by simp) (by decide +kernel) h n.zero_le hlast

theorem best_minute (h : Text.Spells 2 cs n) (hlast : n ≤ 59) : Best .minute cs rest :=
  best_of_spells rfl (by simp) (by decide +kernel) h n.zero_le hlast

theorem best_second (h : Text.Spells 2 cs n) (hlast : n ≤ 59) : Best .second cs rest :=
  best_of_spells rfl (by simp) (by decide +kernel) h n.zero_le hlast

/-- What stands for itself is taken as it is. -/
theorem best_literal (c : Char) : Best (.literal c) [c] rest :=
  best_of_fits rfl (fits_singleton_iff.2 ⟨c, rfl, Text.sameLetter_self c.toNat⟩)

/-- A fraction is taken up to its last digit, if no other one follows. -/
theorem best_fraction (hne : cs ≠ []) (hlength : cs.length ≤ 6) (hdigit : ∀ c ∈ cs, c.isDigit = true)
    (hrest : Decimal.NoDigitAhead rest) : Best .fraction cs rest := by
  have htest : within '0' '9' = Char.isDigit := by
    funext c
    rfl
  show (runs (within '0' '9') 6 (cs ++ rest)).head? = _
  rw [runs, htest, Decimal.takeWhile_digits hdigit hrest, Nat.min_eq_right hlength, List.head?_map,
    List.head?_range, if_neg (mt List.eq_nil_of_length_eq_zero hne)]
  simp

/-- The first tests of some are passed by a whole text. -/
theorem head?_choices_of_fits (h : Fits tests cs) : (choices (tests :: options) cs).head? = some (cs, []) := by
  have htake : take? tests cs = some (cs, []) := take?_eq_some_iff.2 ⟨h, (List.append_nil cs).symm⟩
  rw [choices, List.filterMap_cons, htake]
  rfl

/-- The first tests of some are for more characters than there are. -/
theorem choices_cons_of_length_lt (h : cs.length < tests.length) :
    choices (tests :: options) cs = choices options cs := by
  have htake : take? tests cs = none := by
    rw [Option.eq_none_iff_forall_ne_some]
    intro t ht
    obtain ⟨hfits, happend⟩ := take?_eq_some_iff.1 ht
    have hlength : tests.length = t.1.length := hfits.length_eq
    rw [happend, List.length_append] at h
    omega
  rw [choices, List.filterMap_cons, htake]
  rfl

/-- An offset at the end of a text is taken whole if its hours and minutes are all there is. -/
theorem best_zone_of_minutes (h : (choices zoneMinutesTests cs).head? = some (cs, [])) : Best .zone cs [] := by
  obtain ⟨more, hways⟩ := List.head?_eq_some_iff.1 h
  have htails : zoneTails [] = [([], [])] := rfl
  show (zones (cs ++ [])).head? = _
  rw [List.append_nil]
  show ((choices zoneMinutesTests cs).flatMap (fun m => (zoneTails m.2).map fun t => (m.1 ++ t.1, t.2)) ++
    choices [[only 'Z']] cs).head? = _
  rw [hways, List.flatMap_cons, htails, List.map_singleton, List.append_nil]
  rfl

/-- A number of two digits up to 59 has a first digit up to five. -/
theorem exists_pair_of_spells (h : Text.Spells 2 cs n) :
    ∃ a b, cs = [a, b] ∧ Text.isDigit a = true ∧ Text.isDigit b = true ∧ Text.digitsValue cs = n ∧
      (n ≤ 59 → within '0' '5' a = true) := by
  obtain ⟨a, b, rfl⟩ := List.length_eq_two.1 h.length
  obtain ⟨ha, m, hb, hn⟩ := Text.spells_cons_iff.1 h
  have hdigit := (h.isNumber (by decide)).digit
  refine ⟨a, b, rfl, hdigit a (by simp), hdigit b (by simp), (h.isNumber (by decide)).value, fun hbound => ?_⟩
  have hbounds := Text.toNat_of_isDigit ha
  have hfive : a.toNat ≤ 53 := by
    unfold Text.digitOf at hn
    omega
  exact Bool.and_eq_true_iff.2 ⟨decide_eq_true hbounds.1, decide_eq_true hfive⟩

/-- The characters of a zone in full. -/
theorem exists_digits_of_writesZone (h : Manner.padded.WritesZone cs size) : cs = [] ∨ (cs = ['Z'] ∧ size = 0) ∨
    ∃ marked sign a b c d, (sign == '+' || sign == '-') = true ∧ Text.isDigit a = true ∧ Text.isDigit b = true ∧
      within '0' '5' c = true ∧ Text.isDigit d = true ∧ cs = sign :: ([a, b] ++ (colonOf marked ++ [c, d])) ∧
      size = Text.digitsValue [a, b] * 3600000000 + Text.digitsValue [c, d] * 60000000 := by
  cases h with
  | absent => exact .inl rfl
  | universal => exact .inr (.inl ⟨rfl, rfl⟩)
  | @offset sign colon _ _ _ _ _ _ hsign hcolon hours minutes bound seconds =>
    obtain ⟨rfl, rfl⟩ := seconds
    obtain ⟨a, b, rfl, ha, hb, rfl, -⟩ := exists_pair_of_spells hours
    obtain ⟨c, d, rfl, -, hd, rfl, hc⟩ := exists_pair_of_spells minutes
    obtain ⟨marked, rfl⟩ : ∃ marked, colon = colonOf marked := by
      rcases hcolon with rfl | rfl
      · exact ⟨false, rfl⟩
      · exact ⟨true, rfl⟩
    exact .inr (.inr ⟨marked, sign, a, b, c, d, by simpa using hsign, ha, hb, hc bound, hd, rfl, Nat.add_zero _⟩)

/-- A zone at the end of a text is taken whole. -/
theorem best_zone (h : Manner.padded.WritesZone cs size) (hne : cs ≠ []) : Best .zone cs [] := by
  rcases exists_digits_of_writesZone h with hnil | ⟨rfl, -⟩ |
    ⟨marked, sign, a, b, c, d, hsign, ha, hb, hc, hd, rfl, -⟩
  · exact absurd hnil hne
  · rfl
  · refine best_zone_of_minutes ?_
    cases marked with
    | true =>
      refine head?_choices_of_fits ?_
      exact .cons hsign (.cons ha (.cons hb (.cons rfl (.cons hc (.cons hd .nil)))))
    | false =>
      -- with a colon there would be one character more
      rw [zoneMinutesTests, choices_cons_of_length_lt (by simp [colonOf])]
      exact head?_choices_of_fits (.cons hsign (.cons ha (.cons hb (.cons hc (.cons hd .nil)))))

/-- The size of a zone is read as it is written. -/
theorem zoneSize?_of_writesZone (h : Manner.padded.WritesZone cs size) (hne : cs ≠ []) :
    zoneSize? cs = some size := by
  rcases exists_digits_of_writesZone h with hnil | ⟨rfl, rfl⟩ |
    ⟨marked, sign, a, b, c, d, hsign, ha, hb, hc, hd, rfl, rfl⟩
  · exact absurd hnil hne
  · rfl
  · cases marked with
    | true => exact congrArg some (Nat.add_zero _)
    | false => exact (zoneSize?_plain (ne_colon_of_within hc)).trans (congrArg some (Nat.add_zero _))

end Amend.DatePattern
