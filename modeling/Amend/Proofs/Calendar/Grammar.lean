import Amend.Proofs.Calendar.Reading
import Amend.Proofs.Text.Numeral

/-!
# Dates and times of day as they are written

A date is a year, a month and a day. A time of day may follow, with or without seconds, with or without a fraction of
these, and with or without a zone. How each of these parts may be written depends on the manner (`Manner`). Numbers
written out in full, with zeros in front, make up the manner of `Manner.padded`. What is read on the other hand may
have fewer digits, and digits of any script (`Manner.strict`); it may also have a blank in front of a day of one digit
and a small letter between the day and the time of day (`Manner.loose`).
-/

namespace Amend

/-! ## Numbers -/

namespace Text

/-- Digits of any script, at least one and at most so many, that are a number. -/
structure IsNumber (most : Nat) (cs : List Char) (n : Nat) : Prop where
  ne_nil : cs ≠ []
  length : cs.length ≤ most
  digit : ∀ c ∈ cs, isDigit c = true
  value : digitsValue cs = n

/-- No digit is greater than nine. -/
theorem digitAfter?_le {n v : Nat} {zeros : List Nat} (h : digitAfter? n zeros = some v) : v ≤ 9 := by
  induction zeros with
  | nil => cases h
  | cons start rest ih =>
    rw [digitAfter?] at h
    split at h
    · cases h
    · split at h
      · obtain rfl := Option.some.inj h
        omega
      · exact ih h

/-- The value of a digit of any script, and of anything else zero. -/
def valueOf (c : Char) : Nat := (digitValue? c).getD 0

theorem valueOf_le (c : Char) : valueOf c ≤ 9 := by
  unfold valueOf
  cases h : digitValue? c with
  | none => exact Nat.zero_le 9
  | some v => exact digitAfter?_le h

/-- Two digits are a number of tens and ones. -/
theorem digitsValue_pair (a b : Char) : digitsValue [a, b] = 10 * valueOf a + valueOf b := by
  simp [digitsValue, valueOf]

/-- One digit is a number of ones. -/
theorem digitsValue_singleton (a : Char) : digitsValue [a] = valueOf a := by
  simp [digitsValue, valueOf]

variable {c : Char} {cs : List Char} {width n : Nat}

/-- The digits of the core library are digits, of the same value. -/
theorem digitValue?_of_isDigit (h : c.isDigit = true) : digitValue? c = some (digitOf c) := by
  obtain ⟨hfirst, hlast⟩ := toNat_of_isDigit h
  rw [digitValue?, digitZeros, digitAfter?, if_neg (by omega), if_pos (by omega)]
  rfl

theorem isDigit_of_isDigit (h : c.isDigit = true) : isDigit c = true := by
  rw [isDigit, digitValue?_of_isDigit h]
  rfl

theorem valueOf_of_isDigit (h : c.isDigit = true) : valueOf c = digitOf c := by
  rw [valueOf, digitValue?_of_isDigit h]
  rfl

/-- They are read as the same number. -/
theorem digitsValue_eq (h : ∀ c ∈ cs, c.isDigit = true) : digitsValue cs = Nat.ofDigitChars 10 cs 0 := by
  rw [digitsValue, Nat.ofDigitChars_eq_foldl]
  refine List.foldl_ext _ _ _ fun n c hc => ?_
  rw [digitValue?_of_isDigit (h c hc)]
  rfl

/-- A number in full is a number. -/
theorem Spells.isNumber (h : Spells width cs n) (hwidth : 0 < width) : IsNumber width cs n where
  ne_nil := List.ne_nil_of_length_pos (h.length ▸ hwidth)
  length := h.length.le
  digit := fun c hc => isDigit_of_isDigit (h.digit c hc)
  value := (digitsValue_eq h.digit).trans h.value

end Text

/-! ## Manners of writing -/

/-- Seconds of an offset, perhaps with a fraction, and the number of microseconds that they come to. They are divided
from the minutes like these from the hours. -/
inductive ZoneSeconds (colon : List Char) : List Char → Nat → Prop
  | absent : ZoneSeconds colon [] 0
  | whole {ss : List Char} {n : Nat} (seconds : Text.IsNumber 2 ss n) : ZoneSeconds colon (colon ++ ss) (n * 1000000)
  | fraction {ss fs : List Char} {n v : Nat} (seconds : Text.IsNumber 2 ss n) (fraction : Text.IsNumber 6 fs v) :
      ZoneSeconds colon (colon ++ (ss ++ '.' :: fs)) (n * 1000000 + v * 10 ^ (6 - fs.length))

/-- How the parts of a date and a time of day may be written. -/
structure Manner where
  /-- A number, of a width. -/
  number : Nat → List Char → Nat → Prop
  day : List Char → Nat → Prop
  /-- The mark between a date and a time of day. -/
  mark : Char → Prop
  /-- What may follow the minutes of an offset, which depends on what is in front of them. -/
  zoneSeconds : List Char → List Char → Nat → Prop

namespace Manner

/-- Every number in full, and no seconds in an offset. -/
def padded : Manner where
  number := Text.Spells
  day := Text.Spells 2
  mark := (· = 'T')
  zoneSeconds _ cs microseconds := cs = [] ∧ microseconds = 0

/-- Numbers of up to as many digits, of any script. -/
def strict : Manner where
  number := Text.IsNumber
  day := Text.IsNumber 2
  mark := (· = 'T')
  zoneSeconds := ZoneSeconds

/-- The same, with a blank in front of a day of one digit, and the mark in either case. -/
def loose : Manner :=
  { strict with
    day := fun cs n => Text.IsNumber 2 cs n ∨ ∃ c, cs = [' ', c] ∧ Text.IsNumber 1 [c] n
    mark := fun c => c = 'T' ∨ c = 't' }

/-- A date, as it is written. -/
inductive WritesDate (s : Manner) : List Char → Date → Prop
  | intro {ys ms ds : List Char} {y m d : Nat} (year : s.number 4 ys y) (month : s.number 2 ms m)
      (day : s.day ds d) : WritesDate s (ys ++ '-' :: (ms ++ '-' :: ds)) ⟨y, m, d⟩

/-- What follows the minutes of a time of day: nothing, or seconds with or without a fraction. -/
inductive WritesSeconds (s : Manner) : List Char → Prop
  | absent : WritesSeconds s []
  | whole {ss : List Char} {n : Nat} (seconds : s.number 2 ss n) (bound : n ≤ 59) : WritesSeconds s (':' :: ss)
  | fraction {ss fs : List Char} {n : Nat} (seconds : s.number 2 ss n) (bound : n ≤ 59) (ne_nil : fs ≠ [])
      (length : fs.length ≤ 6) (digit : ∀ c ∈ fs, c.isDigit = true) : WritesSeconds s (':' :: (ss ++ '.' :: fs))

/-- A zone with the size of its offset in microseconds: none, that of universal time, or an offset in hours and minutes,
and seconds if the manner has them. -/
inductive WritesZone (s : Manner) : List Char → Nat → Prop
  | absent : WritesZone s [] 0
  | universal : WritesZone s ['Z'] 0
  | offset {sign : Char} {colon hs ms ss : List Char} {h m microseconds : Nat} (hsign : sign = '+' ∨ sign = '-')
      (hcolon : colon = [] ∨ colon = [':']) (hours : s.number 2 hs h) (minutes : s.number 2 ms m) (bound : m ≤ 59)
      (seconds : s.zoneSeconds colon ss microseconds) :
      WritesZone s (sign :: (hs ++ (colon ++ (ms ++ ss)))) (h * 3600000000 + m * 60000000 + microseconds)

/-- A day that exists, perhaps with a time of day and a zone. -/
inductive Writes (s : Manner) : List Char → Prop
  | date {cs : List Char} {d : Date} (date : s.WritesDate cs d) (valid : d.isValid = true) : Writes s cs
  | moment {ds hs ms ss zs : List Char} {mark : Char} {d : Date} {hour minute size : Nat}
      (date : s.WritesDate ds d) (valid : d.isValid = true) (hmark : s.mark mark) (hours : s.number 2 hs hour)
      (hour_le : hour ≤ 23) (minutes : s.number 2 ms minute) (minute_le : minute ≤ 59)
      (seconds : s.WritesSeconds ss) (zone : s.WritesZone zs size) (size_lt : size < 86400000000) :
      Writes s (ds ++ mark :: (hs ++ ':' :: (ms ++ (ss ++ zs))))

/-! ## The characters of strict texts -/

/-- A digit of any script, or one of the marks between numbers. -/
def isPlain (c : Char) : Bool :=
  Text.isDigit c || ['-', 'T', ':', '.', '+', 'Z'].contains c

variable {cs : List Char} {most n size : Nat}

theorem isPlain_of_isNumber (h : Text.IsNumber most cs n) : ∀ c ∈ cs, isPlain c = true := by
  intro c hc
  rw [isPlain, h.digit c hc, Bool.true_or]

theorem isPlain_of_writesDate {d : Date} (h : strict.WritesDate cs d) : ∀ c ∈ cs, isPlain c = true := by
  obtain ⟨hyear, hmonth, hday⟩ := h
  simp only [List.forall_mem_append, List.forall_mem_cons]
  exact ⟨isPlain_of_isNumber hyear, by decide, isPlain_of_isNumber hmonth, by decide, isPlain_of_isNumber hday⟩

theorem isPlain_of_writesSeconds (h : strict.WritesSeconds cs) : ∀ c ∈ cs, isPlain c = true := by
  cases h with
  | absent => exact List.forall_mem_nil _
  | whole hss => exact List.forall_mem_cons.2 ⟨by decide, isPlain_of_isNumber hss⟩
  | fraction hss _ _ _ hdigit =>
    simp only [List.forall_mem_append, List.forall_mem_cons]
    refine ⟨by decide, isPlain_of_isNumber hss, by decide, fun c hc => ?_⟩
    rw [isPlain, Text.isDigit_of_isDigit (hdigit c hc), Bool.true_or]

theorem isPlain_of_zoneSeconds {colon : List Char} (hcolon : ∀ c ∈ colon, isPlain c = true)
    (h : ZoneSeconds colon cs n) : ∀ c ∈ cs, isPlain c = true := by
  cases h with
  | absent => exact List.forall_mem_nil _
  | whole hss => exact List.forall_mem_append.2 ⟨hcolon, isPlain_of_isNumber hss⟩
  | fraction hss hfs =>
    simp only [List.forall_mem_append, List.forall_mem_cons]
    exact ⟨hcolon, isPlain_of_isNumber hss, by decide, isPlain_of_isNumber hfs⟩

theorem isPlain_of_writesZone (h : strict.WritesZone cs size) : ∀ c ∈ cs, isPlain c = true := by
  cases h with
  | absent => exact List.forall_mem_nil _
  | universal => exact List.forall_mem_singleton.2 (by decide)
  | @offset sign colon _ _ _ _ _ _ hsign hcolon hours minutes _ hseconds =>
    have hplain : isPlain sign = true := by rcases hsign with rfl | rfl <;> decide
    have hmarks : ∀ c ∈ colon, isPlain c = true := by
      rcases hcolon with rfl | rfl
      · exact List.forall_mem_nil _
      · exact List.forall_mem_singleton.2 (by decide)
    simp only [List.forall_mem_append, List.forall_mem_cons]
    exact ⟨hplain, isPlain_of_isNumber hours, hmarks, isPlain_of_isNumber minutes,
      isPlain_of_zoneSeconds hmarks hseconds⟩

/-- Nothing but digits and marks stands in a strict text. -/
theorem isPlain_of_writes (h : strict.Writes cs) : ∀ c ∈ cs, isPlain c = true := by
  cases h with
  | date hdate _ => exact isPlain_of_writesDate hdate
  | moment hdate _ hmark hours _ minutes _ hseconds hzone _ =>
    obtain rfl : _ = 'T' := hmark
    simp only [List.forall_mem_append, List.forall_mem_cons]
    exact ⟨isPlain_of_writesDate hdate, by decide, isPlain_of_isNumber hours, by decide,
      isPlain_of_isNumber minutes, isPlain_of_writesSeconds hseconds, isPlain_of_writesZone hzone⟩

end Manner

end Amend
