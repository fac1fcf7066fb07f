import Amend.Proofs.Check.Range

/-!
# The checks for structures

Times of day, durations and points have a shape that is said here without the checks (`Payload.IsTimeOfDay`,
`Payload.IsDuration`, `Payload.IsPoint`). The checks pass the values of that shape and refuse all others, and no value
ends them in a fault (`run_structures_iff`).

The checks go through the entries of a mapping one after another and stop at the first that is wrong, so that each of
them passes a mapping of which every entry is right (`timeEntries_eq_ok_iff`, `durationEntries_eq_ok_iff`). A truth
value counts as a number in comparisons, but it is of another kind and no amount of anything.
-/

namespace Amend

namespace Payload

/-! ## Shapes -/

/-- A unit of a time of day, and an amount that it can have. -/
inductive IsTimeAmount : Payload → Payload → Prop
  | hour {n : Int} (nonneg : 0 ≤ n) (le : n ≤ 23) : IsTimeAmount (.text "hour") (.int n)
  | minute {n : Int} (nonneg : 0 ≤ n) (le : n ≤ 59) : IsTimeAmount (.text "minute") (.int n)
  | second {n : Int} (nonneg : 0 ≤ n) (le : n ≤ 59) : IsTimeAmount (.text "second") (.int n)

/-- A unit of a duration, and an amount that it can have. -/
inductive IsDurationAmount : Payload → Payload → Prop
  | intro {unit : String} {n : Int}
      (mem : unit ∈ ["years", "months", "weeks", "days", "hours", "minutes", "seconds"]) (nonneg : 0 ≤ n) :
      IsDurationAmount (.text unit) (.int n)

/-- A time of day is a mapping of its units to amounts, with an hour. -/
inductive IsTimeOfDay : Payload → Prop
  | intro {entries : List (Payload × Payload)} (hour : ∃ e ∈ entries, e.1 = .text "hour")
      (amounts : ∀ e ∈ entries, IsTimeAmount e.1 e.2) : IsTimeOfDay (.mapping entries)

/-- A duration is a mapping of its units to amounts that is not empty. -/
inductive IsDuration : Payload → Prop
  | intro {entries : List (Payload × Payload)} (nonempty : entries ≠ [])
      (amounts : ∀ e ∈ entries, IsDurationAmount e.1 e.2) : IsDuration (.mapping entries)

/-- A point is a mapping with its type, and with a longitude and a latitude in a list. -/
inductive IsPoint : Payload → Prop
  | intro {entries : List (Payload × Payload)} {east north : Number}
      (type : entry? entries "type" = some (.text "Point"))
      (coordinates : entry? entries "coordinates" = some (.list [.number east, .number north]))
      (longitude : Number.InRange true (.int (-180)) east (.int 180))
      (latitude : Number.InRange true (.int (-90)) north (.int 90)) : IsPoint (.mapping entries)

/-- There is an entry under a text if the text is a key. -/
theorem isSome_entry?_iff {α : Type} {entries : List (Payload × α)} {name : String} :
    (Payload.entry? entries name).isSome = true ↔ ∃ e ∈ entries, e.1 = .text name := by
  rw [Payload.entry?, Option.isSome_map, List.find?_isSome]
  refine exists_congr fun ⟨p, x⟩ => and_congr_right fun _ => ?_
  cases p with
  | text s => simp
  | _ => simp

end Payload

namespace Check

variable {p unit amount : Payload} {entries : List (Payload × Payload)}

/-! ## Amounts -/

/-- As an integer passes one that has a sign that is allowed. -/
theorem runInteger_eq_ok_iff {allowNegative : Bool} :
    runInteger p allowNegative = .ok () ↔ ∃ n, p = .int n ∧ (allowNegative = true ∨ 0 ≤ n) := by
  unfold runInteger
  split
  · rename_i n
    rw [require_eq_ok_iff]
    simp
  · rename_i hother
    refine iff_of_false nofun ?_
    rintro ⟨n, rfl, -⟩
    exact hother n rfl

/-! ## Times of day -/

/-- The units of a time of day, with their greatest amounts. -/
theorem timeLimit?_eq_some_iff {s : String} {limit : Int} : timeLimit? s = some limit ↔
    (s = "hour" ∧ limit = 23) ∨ (s = "minute" ∧ limit = 59) ∨ (s = "second" ∧ limit = 59) := by
  unfold timeLimit?
  split
  · simp [eq_comm]
  · simp [eq_comm]
  · simp [eq_comm]
  · simp_all

/-- An amount of a unit is an integer between zero and the greatest amount of the unit. -/
theorem isTimeAmount_iff : Payload.IsTimeAmount unit amount ↔
    ∃ s limit n, unit = .text s ∧ timeLimit? s = some limit ∧ amount = .int n ∧ 0 ≤ n ∧ n ≤ limit := by
  constructor
  · rintro (⟨nonneg, le⟩ | ⟨nonneg, le⟩ | ⟨nonneg, le⟩)
    · exact ⟨"hour", 23, _, rfl, rfl, rfl, nonneg, le⟩
    · exact ⟨"minute", 59, _, rfl, rfl, rfl, nonneg, le⟩
    · exact ⟨"second", 59, _, rfl, rfl, rfl, nonneg, le⟩
  · rintro ⟨s, limit, n, rfl, hlimit, rfl, nonneg, le⟩
    rcases timeLimit?_eq_some_iff.1 hlimit with ⟨rfl, rfl⟩ | ⟨rfl, rfl⟩ | ⟨rfl, rfl⟩
    · exact .hour nonneg le
    · exact .minute nonneg le
    · exact .second nonneg le

/-- The first entry of a time of day is looked at before the others. -/
theorem timeEntries_cons_eq_ok_iff :
    timeEntries ((unit, amount) :: entries) = .ok () ↔
      Payload.IsTimeAmount unit amount ∧ timeEntries entries = .ok () := by
  rw [isTimeAmount_iff]
  constructor
  · intro h
    unfold timeEntries at h
    dsimp only at h
    split at h
    · cases h
    · rename_i limit hlimit
      obtain ⟨s, rfl⟩ : ∃ s, unit = .text s := by
        cases unit with
        | text s => exact ⟨s, rfl⟩
        | _ => cases hlimit
      obtain ⟨_, hinteger, h⟩ := bind_eq_ok_iff.1 h
      obtain ⟨n, rfl, hsign⟩ := runInteger_eq_ok_iff.1 hinteger
      obtain ⟨_, hle, h⟩ := bind_eq_ok_iff.1 h
      exact ⟨⟨s, limit, n, rfl, hlimit, rfl, hsign.resolve_left Bool.false_ne_true,
        of_decide_eq_true (require_eq_ok_iff.1 hle)⟩, h⟩
  · rintro ⟨⟨s, limit, n, rfl, hlimit, rfl, nonneg, le⟩, h⟩
    unfold timeEntries
    dsimp only
    rw [hlimit]
    refine bind_eq_ok_iff.2 ⟨(), runInteger_eq_ok_iff.2 ⟨n, rfl, .inr nonneg⟩, ?_⟩
    exact bind_eq_ok_iff.2 ⟨(), require_eq_ok_iff.2 (decide_eq_true le), h⟩

/-- Entries pass as those of a time of day if each of them is a unit with an amount. -/
theorem timeEntries_eq_ok_iff :
    timeEntries entries = .ok () ↔ ∀ e ∈ entries, Payload.IsTimeAmount e.1 e.2 := by
  induction entries with
  | nil => exact iff_of_true rfl nofun
  | cons e rest ih => rw [timeEntries_cons_eq_ok_iff, ih, List.forall_mem_cons]

/-- A mapping passes as a time of day if it has the shape of one. -/
theorem runTimeOfDay_eq_ok_iff : runTimeOfDay p = .ok () ↔ p.IsTimeOfDay := by
  cases p with
  | mapping entries =>
    rw [runTimeOfDay]
    split
    · rename_i hhour
      rw [timeEntries_eq_ok_iff]
      exact ⟨.intro (Payload.isSome_entry?_iff.1 hhour), fun ⟨_, hamounts⟩ => hamounts⟩
    · rename_i hhour
      exact iff_of_false nofun fun ⟨hkey, _⟩ => hhour (Payload.isSome_entry?_iff.2 hkey)
  | _ => exact iff_of_false nofun nofun

/-! ## Durations -/

/-- The first entry of a duration is looked at before the others. -/
theorem durationEntries_cons_eq_ok_iff :
    durationEntries ((unit, amount) :: entries) = .ok () ↔
      Payload.IsDurationAmount unit amount ∧ durationEntries entries = .ok () := by
  constructor
  · intro h
    unfold durationEntries at h
    dsimp only at h
    split at h
    · rename_i s
      obtain ⟨_, hunit, hentry⟩ := bind_eq_ok_iff.1 h
      obtain ⟨_, hinteger, hrest⟩ := bind_eq_ok_iff.1 hentry
      obtain ⟨n, rfl, hsign⟩ := runInteger_eq_ok_iff.1 hinteger
      have hmem : s ∈ durationUnits := List.contains_iff_mem.1 (require_eq_ok_iff.1 hunit)
      exact ⟨.intro hmem (hsign.resolve_left Bool.false_ne_true), hrest⟩
    · cases h
  · rintro ⟨@⟨s, n, hmem, nonneg⟩, h⟩
    unfold durationEntries
    have hunit : durationUnits.contains s = true := List.contains_iff_mem.2 hmem
    refine bind_eq_ok_iff.2 ⟨(), require_eq_ok_iff.2 hunit, ?_⟩
    exact bind_eq_ok_iff.2 ⟨(), runInteger_eq_ok_iff.2 ⟨n, rfl, .inr nonneg⟩, h⟩

/-- Entries pass as those of a duration if each of them is a unit with an amount. -/
theorem durationEntries_eq_ok_iff :
    durationEntries entries = .ok () ↔ ∀ e ∈ entries, Payload.IsDurationAmount e.1 e.2 := by
  induction entries with
  | nil => exact iff_of_true rfl nofun
  | cons e rest ih => rw [durationEntries_cons_eq_ok_iff, ih, List.forall_mem_cons]

/-- A mapping passes as a duration if it has the shape of one. -/
theorem runDuration_eq_ok_iff : runDuration p = .ok () ↔ p.IsDuration := by
  cases p with
  | mapping entries =>
    cases entries with
    | nil => exact iff_of_false nofun fun ⟨hnonempty, _⟩ => hnonempty rfl
    | cons e rest =>
      rw [runDuration, durationEntries_eq_ok_iff]
      · exact ⟨.intro (List.cons_ne_nil e rest), fun ⟨_, hamounts⟩ => hamounts⟩
      · exact nofun
  | _ => exact iff_of_false nofun nofun

/-! ## Points -/

/-- Of values only numbers in the range are angles, since every number that is a value stands somewhere. -/
theorem isAngle_toPayload_iff {v : Value} {limit : Int} : IsAngle limit v.toPayload ↔
    ∃ n, v.toPayload = .number n ∧ Number.InRange true (.int (-limit)) n (.int limit) := by
  refine exists_congr fun n => and_congr_right fun hn => or_iff_left ?_
  rintro ⟨mark, rfl⟩
  have hstorable : (Number.double (.nan mark)).storable = true := storable_of_numberOf (numberOf_eq_ok_iff.2 hn)
  exact Bool.false_ne_true (Number.isFinite_of_storable hstorable)

/-- A value passes as a point if it has the shape of one. -/
theorem runGeopoint_toPayload_eq_ok_iff {v : Value} : runGeopoint v.toPayload = .ok () ↔ v.toPayload.IsPoint := by
  cases v with
  | mapping entries =>
    rw [Value.toPayload, runGeopoint_eq_ok_iff]
    constructor
    · rintro ⟨_, pair, east, north, ⟨⟩, htype, hcoordinates, hpair, heast, hnorth⟩
      obtain ⟨w, rfl⟩ := Value.exists_of_entry? hcoordinates
      -- no value is unwrapped as a tuple
      have hlist := hpair.resolve_right fun htuple => by cases w <;> cases htuple
      obtain ⟨x, rfl⟩ := Value.exists_of_mem_items (.inl hlist) List.mem_cons_self
      obtain ⟨y, rfl⟩ := Value.exists_of_mem_items (.inl hlist) (List.mem_cons_of_mem _ List.mem_cons_self)
      obtain ⟨m, hx, hlongitude⟩ := isAngle_toPayload_iff.1 heast
      obtain ⟨n, hy, hlatitude⟩ := isAngle_toPayload_iff.1 hnorth
      rw [hlist, hx, hy] at hcoordinates
      exact .intro htype hcoordinates hlongitude hlatitude
    · rintro ⟨htype, hcoordinates, hlongitude, hlatitude⟩
      exact ⟨_, _, _, _, rfl, htype, hcoordinates, .inl rfl, ⟨_, rfl, .inl hlongitude⟩, ⟨_, rfl, .inl hlatitude⟩⟩
  | _ => exact iff_of_false (fun h => by cases h) fun h => by cases h

/-! ## All structures -/

/-- As a time of day, a duration or a point passes a value that has the shape of one; every other value is refused,
and no value ends the check in a fault. -/
theorem run_structures_iff (v : Value) :
    (Check.timeOfDay.run v.toPayload = .ok () ↔ v.toPayload.IsTimeOfDay) ∧
      (Check.duration.run v.toPayload = .ok () ↔ v.toPayload.IsDuration) ∧
      (Check.geopoint.run v.toPayload = .ok () ↔ v.toPayload.IsPoint) ∧
      ∀ c ∈ [Check.timeOfDay, Check.duration, Check.geopoint],
        c.run v.toPayload = .ok () ∨ ∃ violation, c.run v.toPayload = .error (.refused violation) := by
  refine ⟨runTimeOfDay_eq_ok_iff, runDuration_eq_ok_iff, runGeopoint_toPayload_eq_ok_iff, fun c hc => ?_⟩
  have hdecisive : c.isDecisive = true ∧ c.isShowable = true := by
    simp only [List.mem_cons, List.not_mem_nil, or_false] at hc
    rcases hc with rfl | rfl | rfl <;> exact ⟨rfl, rfl⟩
  exact run_eq_ok_or_refused hdecisive.1 hdecisive.2 v

/-- The last second of a day passes as its hour and second, whichever comes first; a truth value is no hour. -/
theorem run_structures_lastSecond :
    Check.timeOfDay.run (Value.mapping
        [("second", .number ⟨.int 59, by decide⟩), ("hour", .number ⟨.int 23, by decide⟩)]).toPayload = .ok () ∧
      ¬ (Value.mapping [("hour", .boolean true)]).toPayload.IsTimeOfDay := by
  constructor
  · apply (run_structures_iff _).1.2
    refine .intro ⟨_, List.mem_cons_of_mem _ List.mem_cons_self, rfl⟩ ?_
    exact List.forall_mem_cons.2
      ⟨.second (by decide) (by decide), List.forall_mem_singleton.2 (.hour (by decide) (by decide))⟩
  · rw [← (run_structures_iff _).1]
    exact nofun

end Check

end Amend
