import Amend.Check.Run
import Amend.Proofs.Payload.Shown

/-!
# Checks that come to a judgement

Most checks hold or are violated, whatever the value. A fault needs an argument that the check cannot work
with, and the checks with such arguments are a few: patterns, kinds, collections and the bounds of a range.
The others are decisive, and so is a range between numbers (`Check.isDecisive`). A decisive check on a value
ends in a fault only if its violation cannot be told because of a bound (`Check.judges_run`), and so never if
its bounds can be shown (`Check.noFault_run`).

Some checks need for this that the value is one which the store can hold, so that its numbers have a place in
the order and are not too large for an amount. The others come to a judgement on any payload that can be shown.
-/

namespace Amend

/-! ## Calls that come to a judgement -/

/-- A call comes to a judgement. If it ends in a fault, it is because the judgement cannot be told, which takes
some condition. -/
def Judges {ε α : Type} (untold : Prop) (x : Except (OrFault ε) α) : Prop :=
  ∀ f, x = .error (.fault f) → f = .longInteger ∧ untold

/-- A call comes to a judgement and tells it: it does not end in a fault. -/
def NoFault {ε α : Type} (x : Except (OrFault ε) α) : Prop :=
  ∀ f, x ≠ .error (.fault f)

section

variable {ε α β : Type} {untold : Prop}

/-- What comes to a judgement and can tell it does not end in a fault. -/
theorem Judges.noFault {x : Except (OrFault ε) α} (hx : Judges untold x) (h : ¬ untold) : NoFault x :=
  fun f hf => h (hx f hf).2

theorem judges_ok (a : α) : Judges untold (.ok a : Except (OrFault ε) α) := nofun

theorem judges_refused (e : ε) : Judges untold (.error (.refused e) : Except (OrFault ε) α) := nofun

/-- A reason has been found, and it is told unless the condition is met. -/
theorem judges_refuse [Worded ε] {reason : ε} (h : Worded.isTellable reason = false → untold) :
    Judges untold (refuse reason : Except (OrFault ε) α) := by
  intro f hf
  obtain ⟨hreason, rfl⟩ := told_eq_fault_iff.1 (Except.error.inj hf)
  exact ⟨rfl, h hreason⟩

/-- Steps that come to judgements follow one another and come to one. -/
theorem Judges.bind {x : Except (OrFault ε) α} {k : α → Except (OrFault ε) β} (hx : Judges untold x)
    (hk : ∀ a, x = .ok a → Judges untold (k a)) : Judges untold (x >>= k) := by
  cases x with
  | ok a => exact hk a rfl
  | error e =>
    rintro f ⟨⟩
    exact hx f rfl

/-- A question that has an answer, though it might have ended the call. -/
theorem Judges.orFault_bind {x : Except Fault α} {k : α → Except (OrFault ε) β} (hx : ∃ a, x = .ok a)
    (hk : ∀ a, Judges untold (k a)) : Judges untold (orFault x >>= k) := by
  obtain ⟨a, rfl⟩ := hx
  exact hk a

/-- A call that ends if the answer to such a question is yes, and otherwise goes on. -/
theorem Judges.if_orFault {x : Except Fault Bool} {ending rest : Except (OrFault ε) α}
    (hx : ∃ answer, x = .ok answer) (hending : Judges untold ending) (hrest : Judges untold rest) :
    Judges untold (orFault x >>= fun answer => if answer then ending else rest) := by
  refine Judges.orFault_bind hx fun answer => ?_
  cases answer with
  | true => exact hending
  | false => exact hrest

/-- A condition holds or is violated. -/
theorem judges_require {holds : Bool} {v : Violation} (h : v.isTellable = true) :
    Judges untold (require holds v) := by
  cases holds with
  | true => exact judges_ok ()
  | false => exact judges_refuse fun hv => absurd (h.symm.trans hv) nofun

end

/-! ## Parts of values -/

namespace Value

/-- The items of a sequence as plain data, each from an item. -/
theorem exists_of_mem_itemPayloads {items : List Value} {p : Payload} (h : p ∈ itemPayloads items) :
    ∃ v : Value, p = v.toPayload := by
  induction items with
  | nil => cases h
  | cons v rest ih =>
    rcases List.mem_cons.1 h with rfl | h
    · exact ⟨v, rfl⟩
    · exact ih h

/-- The entries of a mapping as plain data, each from an entry. -/
theorem exists_of_mem_entryPayloads {entries : List (String × Value)} {e : Payload × Payload}
    (h : e ∈ entryPayloads entries) : ∃ v : Value, e.2 = v.toPayload := by
  induction entries with
  | nil => cases h
  | cons entry rest ih =>
    rcases List.mem_cons.1 h with rfl | h
    · exact ⟨entry.2, rfl⟩
    · exact ih h

/-- The items of a value, if it has any, are values. -/
theorem exists_of_mem_items {v : Value} {items : List Payload} {p : Payload}
    (h : v.toPayload = .list items ∨ v.toPayload = .tuple items) (hp : p ∈ items) :
    ∃ w : Value, p = w.toPayload := by
  cases v with
  | sequence vs =>
    obtain rfl : itemPayloads vs = items := by
      rcases h with h | h
      · exact Payload.list.inj h
      · cases h
    exact exists_of_mem_itemPayloads hp
  | _ => rcases h with h | h <;> cases h

end Value

/-- What a mapping has under a text is in one of its entries. -/
theorem Payload.exists_mem_of_entry? {α : Type} {entries : List (Payload × α)} {name : String} {x : α}
    (h : entry? entries name = some x) : ∃ e ∈ entries, e.2 = x := by
  obtain ⟨e, he, rfl⟩ := Option.map_eq_some_iff.1 h
  exact ⟨e, List.mem_of_find?_eq_some he, rfl⟩

/-- What a mapping that is a value has under a text is a value. -/
theorem Value.exists_of_entry? {entries : List (String × Value)} {name : String} {p : Payload}
    (h : Payload.entry? (entryPayloads entries) name = some p) : ∃ v : Value, p = v.toPayload := by
  obtain ⟨e, he, rfl⟩ := Payload.exists_mem_of_entry? h
  exact exists_of_mem_entryPayloads he

namespace Check

/-! ## Numbers -/

/-- A payload that can bound a range: it counts as a number. -/
def isBound (p : Payload) : Bool :=
  match p.number? with
  | some n => !n.exact.isNaN
  | none => false

/-- Integers can bound a range. -/
theorem isBound_int (n : Int) : isBound (.int n) = true := rfl

/-- A number and a bound have an order. -/
theorem exists_compares {n : Number} {bound : Payload} (hn : n.exact.isNaN = false)
    (hbound : isBound bound = true) (r : Number.Relation) : ∃ answer, compares r n bound = .ok answer := by
  rw [isBound] at hbound
  cases hm : bound.number? with
  | none =>
    rw [hm] at hbound
    cases hbound
  | some m =>
    rw [hm] at hbound
    obtain ⟨answer, hanswer⟩ := Number.exists_holds? hn (by simpa using hbound) r
    refine ⟨answer, ?_⟩
    rw [compares, hm]
    simp only [hanswer]

/-- The amount of a number that the store can hold is its size, rounded to the digits of amounts: it is not too large
for an amount. -/
theorem amountOf_eq {n : Number} (h : n.storable = true) :
    amountOf n = .ok (Decimal.amountContext.abs n.reading).1 := by
  have hholds : Decimal.storeContext.holds n.reading = true := h
  have hfinite := Number.isFinite_of_storable h
  obtain ⟨negative, c, e, hreading⟩ : ∃ negative c e, n.reading = .finite negative c e := by
    cases hd : n.reading with
    | finite negative c e => exact ⟨negative, c, e, rfl⟩
    | _ => rw [hd] at hfinite; cases hfinite
  rw [hreading] at hholds
  have hlead : c ≠ 0 → Decimal.adjusted c e < Decimal.amountContext.maxExponent := fun hc =>
    Int.lt_of_le_of_lt (Decimal.Context.adjusted_le_of_holds (by decide) hholds hc) (by decide)
  have hsignals : ∀ s ∈ (Decimal.amountContext.abs n.reading).2, s ≠ .overflow ∧ s ≠ .invalid := by
    rw [hreading]
    exact Decimal.Context.signals_fit (by decide) hlead
  rw [amountOf]
  cases habs : Decimal.amountContext.abs n.reading with
  | mk d signals =>
    rw [habs] at hsignals
    show (if !n.isShowable then _ else if signals.contains .invalid then _
      else if signals.contains .overflow then _ else _) = _
    rw [if_neg (by simp [Number.isShowable_of_storable h]),
      if_neg fun hmem => (hsignals _ (List.contains_iff_mem.1 hmem)).2 rfl,
      if_neg fun hmem => (hsignals _ (List.contains_iff_mem.1 hmem)).1 rfl]

section Judgements

variable {untold : Prop}

/-- The number of a payload is asked for. -/
theorem judges_numberOf {p : Payload} (h : p.isShowable = true) : Judges untold (numberOf p) := by
  have hrefuse : Judges untold (refuse (.wrongKind p [.text "number"]) : Except (OrFault Violation) Number) :=
    judges_refuse fun hv => absurd ((Bool.and_eq_true_iff.2 ⟨h, rfl⟩).symm.trans hv) nofun
  cases p with
  | number n => exact judges_ok n
  | _ => exact hrefuse

/-- The number of a value is one that the store can hold. -/
theorem storable_of_numberOf {v : Value} {n : Number} (h : numberOf v.toPayload = .ok n) :
    n.storable = true := by
  cases v with
  | number m =>
    obtain rfl : m.number = n := by simpa [Value.toPayload, numberOf] using h
    exact m.storable
  | _ => cases h

/-- A range between numbers. Its violation quotes the bounds. -/
theorem judges_runRange (v : Value) {minimum maximum : Payload} (hmin : isBound minimum = true)
    (hmax : isBound maximum = true) (hbounds : (minimum.isShowable && maximum.isShowable) = false → untold)
    (inclusive : Bool) : Judges untold (runRange v.toPayload minimum maximum inclusive) := by
  refine (judges_numberOf v.isShowable_toPayload).bind fun n hn => ?_
  have hnumber := Number.isNaN_exact_of_storable (storable_of_numberOf hn)
  have hquoted : (v.toPayload.isShowable && minimum.isShowable && maximum.isShowable) = false → untold := by
    rw [v.isShowable_toPayload, Bool.true_and]
    exact hbounds
  cases inclusive with
  | true =>
    refine Judges.if_orFault (exists_compares hnumber hmin .lt) (judges_refuse hquoted) ?_
    exact Judges.if_orFault (exists_compares hnumber hmax .gt) (judges_refuse hquoted) (judges_ok ())
  | false =>
    refine Judges.if_orFault (exists_compares hnumber hmin .le) (judges_refuse hquoted) ?_
    exact Judges.if_orFault (exists_compares hnumber hmax .ge) (judges_refuse hquoted) (judges_ok ())

/-- A range of degrees, whose bounds are short. -/
theorem judges_runDegrees (v : Value) {west east : Int}
    (h : ((Payload.int west).isShowable && (Payload.int east).isShowable) = true) :
    Judges untold (runRange v.toPayload (.int west) (.int east) true) :=
  judges_runRange v (isBound_int west) (isBound_int east) (fun hf => absurd (h.symm.trans hf) nofun) true

/-- An amount of money. -/
theorem judges_runCurrency (v : Value) (allowNegative : Bool) :
    Judges untold (runCurrency v.toPayload allowNegative) := by
  refine (judges_numberOf v.isShowable_toPayload).bind fun n hn => ?_
  have hstorable := storable_of_numberOf hn
  have hamount : Judges untold (do
      let d ← orFault (amountOf n)
      require (isAmount d.chars) (.noMatch (.number (.decimal d)) amountPattern)) :=
    Judges.orFault_bind ⟨_, amountOf_eq hstorable⟩ fun d => judges_require rfl
  cases allowNegative with
  | true => exact hamount
  | false =>
    have hnumber := Number.isNaN_exact_of_storable hstorable
    exact Judges.if_orFault (exists_compares hnumber (isBound_int 0) .lt) (judges_refused _) hamount

/-- An integer. -/
theorem judges_runInteger {p : Payload} (h : p.isShowable = true) (allowNegative : Bool) :
    Judges untold (runInteger p allowNegative) := by
  unfold runInteger
  split
  · exact judges_require h
  · exact judges_refuse fun hv => absurd (h.symm.trans hv) nofun

/-! ## Structures -/

/-- The two coordinates that a value holds. -/
theorem judges_runPosition {v : Value} {east north : Payload}
    (h : v.toPayload = .list [east, north] ∨ v.toPayload = .tuple [east, north]) :
    Judges untold (runLongitude east >>= fun _ => runLatitude north) := by
  obtain ⟨x, rfl⟩ := Value.exists_of_mem_items h List.mem_cons_self
  obtain ⟨y, rfl⟩ := Value.exists_of_mem_items h (List.mem_cons_of_mem _ List.mem_cons_self)
  exact (judges_runDegrees x (by decide)).bind fun _ _ => judges_runDegrees y (by decide)

/-- A point, whose coordinates are values because the point is one. -/
theorem judges_runGeopoint (v : Value) : Judges untold (runGeopoint v.toPayload) := by
  cases v with
  | mapping entries =>
    rw [Value.toPayload, runGeopoint]
    split
    · dsimp only
      split
      · rename_i east north hlist
        obtain ⟨w, hw⟩ := Value.exists_of_entry? hlist
        exact judges_runPosition (.inl hw.symm)
      · rename_i east north htuple
        obtain ⟨w, hw⟩ := Value.exists_of_entry? htuple
        exact judges_runPosition (.inr hw.symm)
      · exact judges_refused _
    · exact judges_refused _
  | _ => exact judges_refused _

/-- The entries of a time of day. -/
theorem judges_timeEntries {entries : List (Payload × Payload)} (h : Payload.entriesShowable entries = true) :
    Judges untold (timeEntries entries) := by
  induction entries with
  | nil => exact judges_ok ()
  | cons e rest ih =>
    obtain ⟨unit, amount⟩ := e
    rw [Payload.entriesShowable, Bool.and_eq_true_iff, Bool.and_eq_true_iff] at h
    unfold timeEntries
    dsimp only
    split
    · exact judges_refused _
    · refine (judges_runInteger h.1.2 false).bind fun _ _ => ?_
      split
      · exact (judges_require rfl).bind fun _ _ => ih h.2
      · exact ih h.2

/-- A time of day. -/
theorem judges_runTimeOfDay {p : Payload} (h : p.isShowable = true) : Judges untold (runTimeOfDay p) := by
  unfold runTimeOfDay
  split
  · split
    · exact judges_timeEntries h
    · exact judges_refused _
  · exact judges_refused _

/-- The entries of a duration. -/
theorem judges_durationEntries {entries : List (Payload × Payload)}
    (h : Payload.entriesShowable entries = true) : Judges untold (durationEntries entries) := by
  induction entries with
  | nil => exact judges_ok ()
  | cons e rest ih =>
    obtain ⟨unit, amount⟩ := e
    rw [Payload.entriesShowable, Bool.and_eq_true_iff, Bool.and_eq_true_iff] at h
    unfold durationEntries
    have hrest : Judges untold (runInteger amount false >>= fun _ => durationEntries rest) :=
      (judges_runInteger h.1.2 false).bind fun _ _ => ih h.2
    dsimp only
    split
    · exact (judges_require rfl).bind fun _ _ => hrest
    · exact judges_refused _

/-- A duration. -/
theorem judges_runDuration {p : Payload} (h : p.isShowable = true) : Judges untold (runDuration p) := by
  unfold runDuration
  split
  · exact judges_refused _
  · exact judges_durationEntries h
  · exact judges_refused _

/-- A date and time of day. -/
theorem judges_runDateTime (p : Payload) : Judges untold (runDateTime p) := by
  unfold runDateTime
  split
  · exact judges_require rfl
  · exact judges_refused _

end Judgements

/-! ## Decisive checks -/

/-- A check that comes to a judgement on every value. A range is one if it lies between numbers. -/
def isDecisive : Check Payload → Bool
  | .integer _ | .currency _ | .dateTime | .latitude | .longitude | .geopoint | .timeOfDay | .duration => true
  | .range minimum maximum _ => isBound minimum && isBound maximum
  | .matching _ | .kind _ | .listed _ | .date _ => false

/-- A check that can tell every violation: the bounds of a range can be shown. -/
def isShowable : Check Payload → Bool
  | .range minimum maximum _ => minimum.isShowable && maximum.isShowable
  | _ => true

/-- A decisive check on a value ends in a fault only if its violation cannot be told. -/
theorem judges_run {c : Check Payload} (h : c.isDecisive = true) (v : Value) :
    Judges (c.isShowable = false) (c.run v.toPayload) := by
  cases c with
  | integer allowNegative => exact judges_runInteger v.isShowable_toPayload _
  | currency allowNegative => exact judges_runCurrency v _
  | dateTime => exact judges_runDateTime _
  | range minimum maximum inclusive =>
    obtain ⟨hmin, hmax⟩ := Bool.and_eq_true_iff.1 h
    exact judges_runRange v hmin hmax id _
  | latitude => exact judges_runDegrees v (by decide)
  | longitude => exact judges_runDegrees v (by decide)
  | geopoint => exact judges_runGeopoint v
  | timeOfDay => exact judges_runTimeOfDay v.isShowable_toPayload
  | duration => exact judges_runDuration v.isShowable_toPayload
  | matching pattern => cases h
  | kind kinds => cases h
  | listed allowed => cases h
  | date pattern => cases h

/-- A decisive check that can tell every violation does not end in a fault on a value. -/
theorem noFault_run {c : Check Payload} (h : c.isDecisive = true) (hshown : c.isShowable = true) (v : Value) :
    NoFault (c.run v.toPayload) :=
  (judges_run h v).noFault (by simp [hshown])

/-- Such a check passes a value or refuses it. -/
theorem run_eq_ok_or_refused {c : Check Payload} (h : c.isDecisive = true) (hshown : c.isShowable = true)
    (v : Value) :
    c.run v.toPayload = .ok () ∨ ∃ violation, c.run v.toPayload = .error (.refused violation) := by
  cases hrun : c.run v.toPayload with
  | ok u => exact .inl rfl
  | error e =>
    cases e with
    | refused violation => exact .inr ⟨violation, rfl⟩
    | fault f => exact absurd hrun (noFault_run h hshown v f)

end Check

end Amend
