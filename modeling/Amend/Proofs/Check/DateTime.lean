import Amend.Check.Run
import Amend.Proofs.Calendar.Parts
import Amend.Proofs.Calendar.Timestamp

/-!
# The check for dates and times of day

The check tries seven patterns, which are the forms of a date with or without a time of day (`Form`). A text passes if
it can be read by one of them and what is read makes a moment (`run_dateTime_eq_ok_iff`).

Every text that the patterns should accept is read by the pattern of its own form, where the best way of each piece
leads to the end. Every text that they do accept is, for the same forms, cut into parts that are written as the loose
manner has it.
-/

namespace Amend

namespace DatePattern

/-! ## Forms -/

/-- How far a time of day is given. -/
inductive Precision where
  | minutes
  | seconds
  | fractions
  deriving DecidableEq

/-- The forms of a date, with or without a time of day. -/
inductive Form where
  | date
  | moment (precision : Precision) (zoned : Bool)
  deriving DecidableEq

/-- The pieces of a date. -/
def datePieces : List Piece := [.year, .literal '-', .month, .literal '-', .day]

/-- The pieces of hours and minutes. -/
def clockPieces : List Piece := [.literal 'T', .hour, .literal ':', .minute]

/-- The pieces of what follows the minutes. -/
def Precision.pieces : Precision → List Piece
  | .minutes => []
  | .seconds => [.literal ':', .second]
  | .fractions => [.literal ':', .second, .literal '.', .fraction]

/-- The pieces of a zone. -/
def zonePieces (zoned : Bool) : List Piece := if zoned then [.zone] else []

/-- The pieces of a form. -/
def Form.pieces : Form → List Piece
  | .date => datePieces
  | .moment precision zoned => datePieces ++ (clockPieces ++ (precision.pieces ++ zonePieces zoned))

/-- The forms, longest first. -/
def forms : List Form :=
  [.moment .fractions true, .moment .seconds true, .moment .minutes true, .moment .fractions false,
    .moment .seconds false, .moment .minutes false, .date]

theorem mem_forms (f : Form) : f ∈ forms := by
  obtain _ | ⟨precision, zoned⟩ := f
  · decide
  · cases precision <;> cases zoned <;> decide

/-- The patterns that are tried are those of the forms. -/
theorem pieces?_dateTimePatterns :
    Check.dateTimePatterns.map (fun p => pieces? p.toList) = forms.map fun f => some f.pieces := by
  decide +kernel

/-- No directive stands twice in them. -/
theorem repetition?_pieces (f : Form) : repetition? [] 0 0 f.pieces = none := by
  have hforms : ∀ f ∈ forms, repetition? [] 0 0 f.pieces = none := by decide +kernel
  exact hforms f (mem_forms f)

/-- A text follows the pattern of a form if what is read by it makes a moment. -/
theorem follows_iff {pattern text : String} {f : Form} (h : pieces? pattern.toList = some f.pieces) :
    Check.follows pattern text = true ↔
      ∃ t, firstReading f.pieces text.toList = some (t, []) ∧ makesMoment t = true := by
  rw [Check.follows, followsPattern, h]
  simp only [repetition?_pieces]
  rcases hreading : firstReading f.pieces text.toList with _ | ⟨t, _ | ⟨c, rest⟩⟩ <;> simp

/-- A text passes the check if it can be read by one of the forms and makes a moment. -/
theorem run_dateTime_eq_ok_iff {text : String} : Check.dateTime.run (.text text) = .ok () ↔
    ∃ (f : Form) (t : Taking), firstReading f.pieces text.toList = some (t, []) ∧ makesMoment t = true := by
  have hrequire : Check.dateTime.run (.text text) = .ok () ↔
      ∃ p ∈ Check.dateTimePatterns, Check.follows p text = true := by
    rw [← List.any_eq_true]
    show require _ _ = _ ↔ _
    cases Check.dateTimePatterns.any fun p => Check.follows p text <;> simp [require]
  rw [hrequire]
  constructor
  · rintro ⟨p, hp, hfollows⟩
    obtain ⟨f, -, hpieces⟩ := List.mem_map.1 (pieces?_dateTimePatterns ▸ List.mem_map_of_mem hp)
    exact ⟨f, (follows_iff hpieces.symm).1 hfollows⟩
  · rintro ⟨f, hfollows⟩
    obtain ⟨p, hp, hpieces⟩ := List.mem_map.1 (pieces?_dateTimePatterns.symm ▸ List.mem_map_of_mem (mem_forms f))
    exact ⟨p, hp, (follows_iff hpieces).2 hfollows⟩

/-! ## The parts of a reading -/

variable {say : Piece → List Char → Option Nat} {t clock seconds zone : Taking} {cs ys ms ds : List Char}

/-- The last thing that two readings say is what the second says, if it says anything. -/
theorem lastOf?_append (a b : Taking) : lastOf? say (a ++ b) = (lastOf? say b).or (lastOf? say a) := by
  rw [lastOf?, List.reverse_append, List.findSome?_append]
  rfl

/-- A reading says nothing if none of its pieces does. -/
theorem lastOf?_eq_none (h : ∀ e ∈ t, say e.1 e.2 = none) : lastOf? say t = none := by
  rw [lastOf?, List.findSome?_eq_none_iff]
  exact fun e he => h e (List.mem_reverse.1 he)

/-- What has been taken as a date. -/
def dateTaking (ys ms ds : List Char) : Taking :=
  [(.year, ys), (.literal '-', ['-']), (.month, ms), (.literal '-', ['-']), (.day, ds)]

/-- A piece of a time of day or a zone. -/
def isTimely : Piece → Bool
  | .literal _ | .hour | .minute | .second | .fraction | .zone => true
  | _ => false

/-- The date that is read does not depend on the time of day. -/
theorem lastOf?_dateTaking_append (h : ∀ e ∈ t, isTimely e.1 = true)
    (hsay : ∀ p cs, isTimely p = true → say p cs = none) :
    lastOf? say (dateTaking ys ms ds ++ t) = lastOf? say (dateTaking ys ms ds) := by
  rw [lastOf?_append, lastOf?_eq_none fun e he => hsay e.1 e.2 (h e he), Option.none_or]

/-- So a part that no time of day has is that of the date. -/
theorem partOf?_dateTaking_append {p : Piece} (h : ∀ e ∈ t, isTimely e.1 = true) (hp : isTimely p = false) :
    partOf? p (dateTaking ys ms ds ++ t) = partOf? p (dateTaking ys ms ds) := by
  refine lastOf?_dateTaking_append h fun q _ hq => if_neg ?_
  rintro rfl
  exact Bool.false_ne_true (hp.symm.trans hq)

/-- The date of a reading is that of its year, its month and its day. -/
theorem dateOf?_dateTaking_append (h : ∀ e ∈ t, isTimely e.1 = true) :
    dateOf? (dateTaking ys ms ds ++ t) = some ⟨numberOf ys, numberOf ms, numberOf ds⟩ := by
  have hyear : year? (dateTaking ys ms ds ++ t) = some (numberOf ys) :=
    lastOf?_dateTaking_append h fun p _ hp => by cases p <;> first | rfl | cases hp
  have hmonth : month? (dateTaking ys ms ds ++ t) = some (numberOf ms) :=
    lastOf?_dateTaking_append h fun p _ hp => by cases p <;> first | rfl | cases hp
  have hday : partOf? .day (dateTaking ys ms ds ++ t) = some (numberOf ds) := partOf?_dateTaking_append h rfl
  have hyearDay : partOf? .yearDay (dateTaking ys ms ds ++ t) = none := partOf?_dateTaking_append h rfl
  have hweekday : weekday? (dateTaking ys ms ds ++ t) = none :=
    lastOf?_dateTaking_append h fun p _ hp => by cases p <;> first | rfl | cases hp
  simp [dateOf?, yearDay?, hyear, hmonth, hday, hyearDay, hweekday]

/-- No names and no weeks are read. -/
theorem namesValid_dateTaking_append (h : ∀ e ∈ t, isTimely e.1 = true) :
    namesValid (dateTaking ys ms ds ++ t) = true ∧ weeksValid (dateTaking ys ms ds ++ t) = true := by
  have hweekYear : partOf? .weekYear (dateTaking ys ms ds ++ t) = none := partOf?_dateTaking_append h rfl
  have hisoWeek : partOf? .isoWeek (dateTaking ys ms ds ++ t) = none := partOf?_dateTaking_append h rfl
  refine ⟨?_, by rw [weeksValid, hweekYear, hisoWeek]; rfl⟩
  rw [namesValid, List.all_append, Bool.and_eq_true, List.all_eq_true, List.all_eq_true]
  refine ⟨fun e he => ?_, fun e he => ?_⟩
  · simp only [dateTaking, List.mem_cons, List.not_mem_nil, or_false] at he
    rcases he with rfl | rfl | rfl | rfl | rfl <;> rfl
  · have hp := h e he
    obtain ⟨p, cs⟩ := e
    cases p <;> first | rfl | cases hp

/-- A date with a time of day makes a moment if the date is valid, the second below sixty and the zone consistent. -/
theorem makesMoment_iff (h : ∀ e ∈ t, isTimely e.1 = true) : makesMoment (dateTaking ys ms ds ++ t) = true ↔
    Date.isValid ⟨numberOf ys, numberOf ms, numberOf ds⟩ = true ∧ (partOf? .second t).getD 0 < 60 ∧
      zoneValid t = true := by
  obtain ⟨hnames, hweeks⟩ :
      namesValid (dateTaking ys ms ds ++ t) = true ∧ weeksValid (dateTaking ys ms ds ++ t) = true :=
    namesValid_dateTaking_append h
  -- the date has neither a second nor a zone
  have hsecond : partOf? .second (dateTaking ys ms ds ++ t) = partOf? .second t := by
    rw [partOf?, lastOf?_append]
    exact Option.or_none
  have hzone : zoneValid (dateTaking ys ms ds ++ t) = zoneValid t := by
    rw [zoneValid, List.find?_append]
    rfl
  rw [makesMoment, dateOf?_dateTaking_append h, hnames, hweeks, hsecond, hzone]
  simp [and_assoc]

/-- Nothing is read for a piece that the pattern lacks. -/
theorem partOf?_eq_none {p : Piece} (h : p ∉ t.map Prod.fst) : partOf? p t = none :=
  lastOf?_eq_none fun e he => if_neg fun heq : e.1 = p => h (heq ▸ List.mem_map_of_mem he)

/-- The parts behind the date that matter are the second and the zone. -/
theorem makesMoment_parts_iff {precision : Precision} {zoned : Bool} (hclock : clock.map Prod.fst = clockPieces)
    (hseconds : seconds.map Prod.fst = precision.pieces) (hzone : zone.map Prod.fst = zonePieces zoned) :
    makesMoment (dateTaking ys ms ds ++ (clock ++ (seconds ++ zone))) = true ↔
      Date.isValid ⟨numberOf ys, numberOf ms, numberOf ds⟩ = true ∧ (partOf? .second seconds).getD 0 < 60 ∧
        zoneValid zone = true := by
  have hpieces : ∀ p ∈ clockPieces ++ (precision.pieces ++ zonePieces zoned), isTimely p = true := by
    cases precision <;> cases zoned <;> decide
  have htimely : ∀ e ∈ clock ++ (seconds ++ zone), isTimely e.1 = true := by
    rw [← hclock, ← hseconds, ← hzone, ← List.map_append, ← List.map_append, List.forall_mem_map] at hpieces
    exact hpieces
  have hsecond : partOf? .second (clock ++ (seconds ++ zone)) = partOf? .second seconds := by
    have hclock : partOf? .second clock = none := partOf?_eq_none (by rw [hclock]; decide)
    have hzone : partOf? .second zone = none := partOf?_eq_none (by rw [hzone]; cases zoned <;> decide)
    rw [partOf?] at hclock hzone ⊢
    rw [lastOf?_append, lastOf?_append, hclock, hzone, Option.none_or, Option.or_none]
  have hfind : zoneValid (clock ++ (seconds ++ zone)) = zoneValid zone := by
    have hnone : (clock ++ seconds).find? (fun e => e.1 = .zone) = none := by
      rw [List.find?_eq_none]
      intro e he
      have hmem : e.1 ∈ clockPieces ++ precision.pieces := by
        rw [← hclock, ← hseconds, ← List.map_append]
        exact List.mem_map_of_mem he
      have hother : ∀ p ∈ clockPieces ++ precision.pieces, p ≠ .zone := by cases precision <;> decide
      simpa using hother _ hmem
    rw [zoneValid, ← List.append_assoc, List.find?_append, hnone]
    rfl
  rw [makesMoment_iff htimely, hsecond, hfind]

/-! ## Texts that pass -/

/-- What is read as a date. -/
theorem date_of_reads (h : Reads datePieces t) : ∃ ys ms ds, t = dateTaking ys ms ds ∧
    Manner.loose.WritesDate (t.flatMap Prod.snd) ⟨numberOf ys, numberOf ms, numberOf ds⟩ := by
  simp only [datePieces, reads_cons_iff, reads_nil_iff] at h
  obtain ⟨ys, _, hys, ⟨_, _, ha, ⟨ms, _, hms, ⟨_, _, hb, ⟨ds, _, hds, rfl, rfl⟩, rfl⟩, rfl⟩, rfl⟩, rfl⟩ := h
  obtain rfl := mark_of_takes (by decide) ha
  obtain rfl := mark_of_takes (by decide) hb
  refine ⟨ys, ms, ds, rfl, ?_⟩
  have hdate : Manner.loose.WritesDate (ys ++ '-' :: (ms ++ '-' :: ds)) ⟨numberOf ys, numberOf ms, numberOf ds⟩ :=
    .intro (isNumber_of_takes_year hys) (isNumber_of_takes_month hms) (day_of_takes hds)
  simpa using hdate

/-- What is read as hours and minutes. -/
theorem clock_of_reads (h : Reads clockPieces t) : ∃ mark hs ms, t.flatMap Prod.snd = mark :: (hs ++ ':' :: ms) ∧
    Manner.loose.mark mark ∧ Text.IsNumber 2 hs (numberOf hs) ∧ numberOf hs ≤ 23 ∧
      Text.IsNumber 2 ms (numberOf ms) ∧ numberOf ms ≤ 59 := by
  simp only [clockPieces, reads_cons_iff, reads_nil_iff] at h
  obtain ⟨_, _, hletter, ⟨hs, _, hhs, ⟨_, _, hcolon, ⟨ms, _, hms, rfl, rfl⟩, rfl⟩, rfl⟩, rfl⟩ := h
  obtain ⟨mark, rfl, hmark⟩ := letter_of_takes hletter
  obtain rfl := mark_of_takes (by decide) hcolon
  exact ⟨mark, hs, ms, by simp, hmark, isNumber_of_takes_hour hhs, numberOf_le_of_takes_hour hhs,
    isNumber_of_takes_minute hms, numberOf_le_of_takes_minute hms⟩

/-- What is read behind the minutes. -/
theorem seconds_of_reads {precision : Precision} (h : Reads precision.pieces t)
    (hbound : (partOf? .second t).getD 0 < 60) : Manner.loose.WritesSeconds (t.flatMap Prod.snd) := by
  cases precision with
  | minutes =>
    obtain rfl := reads_nil_iff.1 h
    exact .absent
  | seconds =>
    simp only [Precision.pieces, reads_cons_iff, reads_nil_iff] at h
    obtain ⟨_, _, hcolon, ⟨ss, _, hss, rfl, rfl⟩, rfl⟩ := h
    obtain rfl := mark_of_takes (by decide) hcolon
    have hseconds : Manner.loose.WritesSeconds (':' :: ss) :=
      .whole (isNumber_of_takes_second hss) (Nat.le_of_lt_succ hbound)
    simpa using hseconds
  | fractions =>
    simp only [Precision.pieces, reads_cons_iff, reads_nil_iff] at h
    obtain ⟨_, _, hcolon, ⟨ss, _, hss, ⟨_, _, hpoint, ⟨fs, _, hfs, rfl, rfl⟩, rfl⟩, rfl⟩, rfl⟩ := h
    obtain rfl := mark_of_takes (by decide) hcolon
    obtain rfl := mark_of_takes (by decide) hpoint
    obtain ⟨hne, hlength, hdigit⟩ := fraction_of_takes hfs
    have hseconds : Manner.loose.WritesSeconds (':' :: (ss ++ '.' :: fs)) :=
      .fraction (isNumber_of_takes_second hss) (Nat.le_of_lt_succ hbound) hne hlength hdigit
    simpa using hseconds

/-- What is read as a zone. -/
theorem zone_of_reads {zoned : Bool} (h : Reads (zonePieces zoned) t) (hvalid : zoneValid t = true) :
    ∃ size, Manner.loose.WritesZone (t.flatMap Prod.snd) size ∧ size < 86400000000 := by
  cases zoned with
  | false =>
    obtain rfl := reads_nil_iff.1 h
    exact ⟨0, .absent, by decide⟩
  | true =>
    simp only [zonePieces, if_true, reads_cons_iff, reads_nil_iff] at h
    obtain ⟨zs, _, hzs, rfl, rfl⟩ := h
    obtain ⟨size, hsize, hlt⟩ := (Option.any_eq_true _ _).1 hvalid
    exact ⟨size, by simpa using zone_of_takes hzs hsize, of_decide_eq_true hlt⟩

/-- What is read by a form and makes a moment is written as the loose manner has it. -/
theorem writes_of_reads {f : Form} (h : Reads f.pieces t) (hmoment : makesMoment t = true) :
    Manner.loose.Writes (t.flatMap Prod.snd) := by
  cases f with
  | date =>
    obtain ⟨ys, ms, ds, rfl, hdate⟩ := date_of_reads h
    rw [← List.append_nil (dateTaking ys ms ds), makesMoment_iff (List.forall_mem_nil _)] at hmoment
    exact .date hdate hmoment.1
  | moment precision zoned =>
    -- the pieces of the form are those of its parts, and so are the characters that they have taken
    obtain ⟨date, _, rfl, hdate, hrest⟩ := h.exists_append
    obtain ⟨clock, _, rfl, hclock, hrest⟩ := hrest.exists_append
    obtain ⟨seconds, zone, rfl, hseconds, hzone⟩ := hrest.exists_append
    obtain ⟨ys, ms, ds, rfl, hdate⟩ := date_of_reads hdate
    obtain ⟨hvalid, hsecond, hzoneValid⟩ :=
      (makesMoment_parts_iff hclock.map_fst hseconds.map_fst hzone.map_fst).1 hmoment
    obtain ⟨mark, hs, mins, htext, hmark, hhour, hhourLe, hminute, hminuteLe⟩ := clock_of_reads hclock
    obtain ⟨size, hzone, hlt⟩ := zone_of_reads hzone hzoneValid
    have hwrites := Manner.Writes.moment hdate hvalid hmark hhour hhourLe hminute hminuteLe
      (seconds_of_reads hseconds hsecond) hzone hlt
    simpa [List.flatMap_append, htext] using hwrites

/-! ## Texts in full -/

variable {ps : List Piece} {rest : List Char}

/-- A date in full is read as it is written. -/
theorem firstReading_date {d : Date} (h : Manner.padded.WritesDate cs d) (hvalid : d.isValid = true)
    (hrest : firstReading ps rest = some (t, [])) : ∃ ys ms ds, d = ⟨numberOf ys, numberOf ms, numberOf ds⟩ ∧
      firstReading (datePieces ++ ps) (cs ++ rest) = some (dateTaking ys ms ds ++ t, []) := by
  obtain @⟨ys, ms, ds, y, m, d, hyear, hmonth, hday⟩ := h
  obtain ⟨-, hcalendar⟩ := Date.isValid_iff.1 hvalid
  obtain ⟨hfirst, hlast⟩ := hcalendar.month
  have hlastDay : d ≤ 31 := hcalendar.2.trans (Date.daysIn_le y m)
  refine ⟨ys, ms, ds, ?_, ?_⟩
  · rw [numberOf_of_spells (by decide) hyear, numberOf_of_spells (by decide) hmonth,
      numberOf_of_spells (by decide) hday]
  · have hread := firstReading_of_best (best_year hyear) <| firstReading_of_best (best_literal '-') <|
      firstReading_of_best (best_month hmonth hfirst hlast) <| firstReading_of_best (best_literal '-') <|
      firstReading_of_best (best_day hday hcalendar.1 hlastDay) hrest
    simpa [datePieces, dateTaking] using hread

/-- Hours and minutes in full are read as they are written. -/
theorem firstReading_clock {hs ms : List Char} {hour minute : Nat} (hhour : Text.Spells 2 hs hour)
    (hour_le : hour ≤ 23) (hminute : Text.Spells 2 ms minute) (minute_le : minute ≤ 59)
    (hrest : firstReading ps rest = some (t, [])) :
    ∃ clock, clock.map Prod.fst = clockPieces ∧
      firstReading (clockPieces ++ ps) ('T' :: (hs ++ ':' :: (ms ++ rest))) = some (clock ++ t, []) := by
  have hread := firstReading_of_best (best_literal 'T') <| firstReading_of_best (best_hour hhour hour_le) <|
    firstReading_of_best (best_literal ':') <| firstReading_of_best (best_minute hminute minute_le) hrest
  exact ⟨[(.literal 'T', ['T']), (.hour, hs), (.literal ':', [':']), (.minute, ms)], rfl, hread⟩

/-- Seconds in full are read as they are written. -/
theorem firstReading_seconds (h : Manner.padded.WritesSeconds cs) (hahead : Decimal.NoDigitAhead rest)
    (hrest : firstReading ps rest = some (t, [])) :
    ∃ (precision : Precision) (seconds : Taking), seconds.map Prod.fst = precision.pieces ∧
      (partOf? .second seconds).getD 0 < 60 ∧
      firstReading (precision.pieces ++ ps) (cs ++ rest) = some (seconds ++ t, []) := by
  cases h with
  | absent => exact ⟨.minutes, [], rfl, by decide, hrest⟩
  | @whole ss n hss hbound =>
    have hread := firstReading_of_best (best_literal ':') <| firstReading_of_best (best_second hss hbound) hrest
    refine ⟨.seconds, [(.literal ':', [':']), (.second, ss)], rfl, ?_, hread⟩
    show numberOf ss < 60
    rw [numberOf_of_spells (by decide) hss]
    omega
  | @fraction ss fs n hss hbound hne hlength hdigit =>
    have hread := firstReading_of_best (best_literal ':') <| firstReading_of_best (best_second hss hbound) <|
      firstReading_of_best (best_literal '.') <|
      firstReading_of_best (best_fraction hne hlength hdigit hahead) hrest
    refine ⟨.fractions, [(.literal ':', [':']), (.second, ss), (.literal '.', ['.']), (.fraction, fs)], rfl, ?_, ?_⟩
    · show numberOf ss < 60
      rw [numberOf_of_spells (by decide) hss]
      omega
    · simpa [Precision.pieces] using hread

/-- A zone does not start with a digit. -/
theorem noDigitAhead_of_writesZone {size : Nat} (h : Manner.padded.WritesZone cs size) :
    Decimal.NoDigitAhead cs := by
  cases h with
  | absent => exact Decimal.noDigitAhead_nil
  | universal => exact Decimal.noDigitAhead_cons (by decide) _
  | offset hsign =>
    refine Decimal.noDigitAhead_cons ?_ _
    rcases hsign with rfl | rfl <;> decide

/-- A zone in full is read as it is written. -/
theorem firstReading_zone {size : Nat} (h : Manner.padded.WritesZone cs size) (hsize : size < 86400000000) :
    ∃ (zoned : Bool) (zone : Taking), zone.map Prod.fst = zonePieces zoned ∧ zoneValid zone = true ∧
      firstReading (zonePieces zoned) cs = some (zone, []) := by
  by_cases hnil : cs = []
  · subst hnil
    exact ⟨false, [], rfl, rfl, rfl⟩
  · have hread : firstReading [.zone] (cs ++ []) = some ([(.zone, cs)], []) :=
      firstReading_of_best (best_zone h hnil) rfl
    refine ⟨true, [(.zone, cs)], rfl, ?_, by rwa [List.append_nil] at hread⟩
    show (zoneSize? cs).any (· < 86400000000) = true
    rw [zoneSize?_of_writesZone h hnil]
    exact decide_eq_true hsize

/-- A text in full is read by its own form, and makes a moment. -/
theorem exists_firstReading_of_writes (h : Manner.padded.Writes cs) :
    ∃ (f : Form) (t : Taking), firstReading f.pieces cs = some (t, []) ∧ makesMoment t = true := by
  cases h with
  | date hdate hvalid =>
    have hend : firstReading [] [] = some ([], []) := rfl
    obtain ⟨ys, ms, ds, rfl, hread⟩ := firstReading_date hdate hvalid hend
    rw [List.append_nil, List.append_nil] at hread
    exact ⟨.date, _, hread, (makesMoment_iff (List.forall_mem_nil _)).2 ⟨hvalid, by decide, rfl⟩⟩
  | moment hdate hvalid hmark hhour hour_le hminute minute_le hseconds hzone hlt =>
    obtain rfl : _ = 'T' := hmark
    -- a reading goes on from what its first piece takes, so the last part comes first
    obtain ⟨zoned, zone, hzonePieces, hzoneValid, hread⟩ := firstReading_zone hzone hlt
    obtain ⟨precision, seconds, hsecondsPieces, hsecond, hread⟩ :=
      firstReading_seconds hseconds (noDigitAhead_of_writesZone hzone) hread
    obtain ⟨clock, hclockPieces, hread⟩ := firstReading_clock hhour hour_le hminute minute_le hread
    obtain ⟨ys, ms, ds, rfl, hread⟩ := firstReading_date hdate hvalid hread
    exact ⟨.moment precision zoned, _, hread,
      (makesMoment_parts_iff hclockPieces hsecondsPieces hzonePieces).2 ⟨hvalid, hsecond, hzoneValid⟩⟩

end DatePattern

/-! ## Timestamps -/

/-- A timestamp is a text in full. -/
theorem Denotes.writes {text : String} {milliseconds : Int} (h : Denotes text milliseconds) :
    Manner.padded.Writes text.toList := by
  obtain ⟨u, hvalid, hshows, -⟩ := h
  simp only [timestampLayout, UniversalTime.numbers] at hshows
  generalize text.toList = cs at hshows ⊢
  obtain _ | ⟨hyear, _ | ⟨hmonth, _ | ⟨hday, _ | ⟨hhour, _ | ⟨hminute, _ | ⟨hsecond, _ | ⟨hfraction, _ | _⟩⟩⟩⟩⟩⟩⟩ :=
    hshows
  have hseconds := Manner.WritesSeconds.fraction (s := Manner.padded) hsecond (Nat.le_of_lt_succ hvalid.second)
    (List.ne_nil_of_length_pos (hfraction.length ▸ by decide)) (hfraction.length.le.trans (by decide)) hfraction.digit
  have hwrites := Manner.Writes.moment (s := Manner.padded) (.intro hyear hmonth hday) hvalid.date rfl hhour
    (Nat.le_of_lt_succ hvalid.hour) hminute (Nat.le_of_lt_succ hvalid.minute) hseconds .universal (by decide)
  simpa using hwrites

/-! ## The check -/

namespace Check

/-- A text in full passes. -/
theorem run_dateTime_of_writes {text : String} (h : Manner.padded.Writes text.toList) :
    Check.dateTime.run (.text text) = .ok () :=
  DatePattern.run_dateTime_eq_ok_iff.2 (DatePattern.exists_firstReading_of_writes h)

/-- A text that passes is written as the loose manner has it. -/
theorem writes_of_run_dateTime {text : String} (h : Check.dateTime.run (.text text) = .ok ()) :
    Manner.loose.Writes text.toList := by
  obtain ⟨f, t, hreading, hmoment⟩ := DatePattern.run_dateTime_eq_ok_iff.1 h
  obtain ⟨hreads, htext⟩ := DatePattern.reads_of_firstReading hreading
  rw [htext, List.append_nil]
  exact DatePattern.writes_of_reads hreads hmoment

/-- The check has two outcomes. -/
theorem run_dateTime_eq_ok_or (p : Payload) :
    Check.dateTime.run p = .ok () ∨ Check.dateTime.run p = .error (.refused .notDateTime) := by
  cases p with
  | text s =>
    show require _ _ = _ ∨ require _ _ = _
    cases dateTimePatterns.any fun p => follows p s
    · exact .inr rfl
    · exact .inl rfl
  | _ => exact .inr rfl

/-- Every date and time of day that is written in full passes the check for them, and so do all timestamps. What passes
is a text with a day that exists, perhaps with a time of day that does and with an offset of less than a day. Anything
else is refused, with the same complaint. -/
theorem run_dateTime_spec :
    (∀ text : String, Manner.padded.Writes text.toList → Check.dateTime.run (.text text) = .ok ()) ∧
      (∀ (m : Moment) (text : String), m.Valid → m.timestamp = .ok text →
        Check.dateTime.run (.text text) = .ok ()) ∧
      (∀ p, Check.dateTime.run p = .ok () → ∃ text, p = .text text ∧ Manner.loose.Writes text.toList) ∧
      ∀ p, Check.dateTime.run p = .ok () ∨ Check.dateTime.run p = .error (.refused .notDateTime) := by
  refine ⟨fun text h => run_dateTime_of_writes h, fun m text hm htext => ?_, fun p hp => ?_, run_dateTime_eq_ok_or⟩
  · exact run_dateTime_of_writes (Moment.denotes_of_timestamp hm htext).writes
  · cases p with
    | text s => exact ⟨s, rfl, writes_of_run_dateTime hp⟩
    | _ => cases hp

/-- Four minutes to six on a leap day, where clocks are ahead by five hours and a half. -/
def leapEvening : String := "2024-02-29T17:56+05:30"

/-- A text in full, the timestamp of a moment, and a text that passes though it is not in full. -/
theorem run_dateTime_spec_leapEvening :
    (Manner.padded.Writes leapEvening.toList ∧ Check.dateTime.run (.text leapEvening) = .ok ()) ∧
      (Moment.leapNight.Valid ∧ Moment.leapNight.timestamp = .ok "2024-03-01T00:30:00.000Z" ∧
        Check.dateTime.run (.text "2024-03-01T00:30:00.000Z") = .ok ()) ∧
      Check.dateTime.run (.text "2024-2-29t7:6") = .ok () ∧ Manner.loose.Writes "2024-2-29t7:6".toList := by
  have hyear : Text.Spells 4 (Text.padded 4 2024) 2024 := Text.spells_padded (by decide) (by decide)
  have hpair (n : Nat) (h : n < 10 ^ 2) : Text.Spells 2 (Text.padded 2 n) n := Text.spells_padded (by decide) h
  have hdate := Manner.WritesDate.intro (s := Manner.padded) hyear (hpair 2 (by decide)) (hpair 29 (by decide))
  have hnoSeconds : Manner.padded.zoneSeconds [':'] [] 0 := ⟨rfl, rfl⟩
  have hzone := Manner.WritesZone.offset (s := Manner.padded) (.inl rfl) (.inr rfl) (hpair 5 (by decide))
    (hpair 30 (by decide)) (by decide) hnoSeconds
  have hwrites : Manner.padded.Writes leapEvening.toList :=
    .moment hdate (by decide) rfl (hpair 17 (by decide)) (by decide) (hpair 56 (by decide)) (by decide) .absent hzone
      (by decide)
  have hnight : Moment.leapNight.Valid :=
    ⟨by decide, by decide, by decide, by decide, by decide, by decide, by decide⟩
  have hstamp : Moment.leapNight.timestamp = .ok "2024-03-01T00:30:00.000Z" := rfl
  have hpasses : Check.dateTime.run (.text "2024-2-29t7:6") = .ok () :=
    DatePattern.run_dateTime_eq_ok_iff.2 ⟨.moment .minutes false, _, rfl, rfl⟩
  obtain ⟨hfull, hstamps, hsound, -⟩ := run_dateTime_spec
  obtain ⟨_, ⟨⟩, hloose⟩ := hsound _ hpasses
  exact ⟨⟨hwrites, hfull leapEvening hwrites⟩, ⟨hnight, hstamp, hstamps _ _ hnight hstamp⟩, hpasses, hloose⟩

/-- A text with a blank in front of the day and a small letter behind it passes, though it does not consist of numbers
and marks alone. -/
theorem run_dateTime_blankDay : Check.dateTime.run (.text "2024-05- 1t12:30") = .ok () ∧
    ¬Manner.strict.Writes "2024-05- 1t12:30".toList := by
  refine ⟨DatePattern.run_dateTime_eq_ok_iff.2 ⟨.moment .minutes false, _, rfl, rfl⟩, fun h => ?_⟩
  have hblank : Manner.isPlain ' ' = true := Manner.isPlain_of_writes h ' ' (by decide)
  exact absurd hblank (by decide)

end Check

end Amend
