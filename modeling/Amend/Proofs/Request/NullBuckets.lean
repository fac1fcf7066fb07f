import Amend.Proofs.Request.Kinds

/-!
# Buckets that are null

A bucket that is null takes part in nothing, but its name is looked at: an action must not be named behind a
bucket of the action that is not null. So a request with null buckets is read as the one without them if each
comes in time (`Timely`), and it is refused if one of them is late. `Request.ofPayload_filter_iff` says for any
of the null buckets when leaving them out makes no difference.

The names are looked at one by one, and `consider` is what happens to one of them; `consider_eq_ok_iff` is all
that the theory needs to know about it.
-/

namespace Amend.Request

/-! ## Entries of a request -/

/-- An entry under a name of an action, with null in it. -/
def IsNullBucket (e : Payload × Payload) : Prop :=
  e.2 = .null ∧ ∃ a, Action.ofPayload? e.1 = some a

/-- Of two entries the later one names the action of the earlier one, and that is not null. -/
def Repeats (earlier later : Payload × Payload) : Prop :=
  earlier.2 ≠ .null ∧ ∃ a, Action.ofPayload? earlier.1 = some a ∧ Action.ofPayload? later.1 = some a

/-- The entries of a request are well named: each but the key names an action, and none names the action of an
earlier one that is not null. -/
structure WellNamed (entries : List (Payload × Payload)) : Prop where
  named : ∀ e ∈ entries, e.1 = .text "key" ∨ ∃ a, Action.ofPayload? e.1 = some a
  single : entries.Pairwise fun earlier later => ¬ Repeats earlier later

/-- No entry that is to be dropped repeats an earlier one. -/
def Timely (dropped : Payload × Payload → Bool) (entries : List (Payload × Payload)) : Prop :=
  entries.Pairwise fun earlier later => dropped later = true → ¬ Repeats earlier later

/-- None of the entries names an action that has been found. -/
def Fresh (found : OrderedMap Action Payload) (entries : List (Payload × Payload)) : Prop :=
  ∀ e ∈ entries, ∀ a, Action.ofPayload? e.1 = some a → a ∉ found.keys

/-- One request, or rejections of one kind. -/
def SameOutcome : Except Rejection Request → Except Rejection Request → Prop
  | .ok r, .ok s => r = s
  | .error e, .error f => e.kind = f.kind
  | _, _ => False

/-! ## One entry -/

/-- What has been found after one more entry. -/
def consider (found : OrderedMap Action Payload) (e : Payload × Payload) :
    Except Rejection (OrderedMap Action Payload) :=
  if Payload.sameName e.1 (.text "key") then .ok found
  else match Action.ofPayload? e.1 with
    | none => .error (.unknownAction e.1)
    | some a =>
      if a ∈ found.keys then .error (.repeatedAction a)
      else match e.2 with
        | .null => .ok found
        | p => .ok (found.insert a p)

/-- Entries are considered one after another. -/
theorem bucketsOf_cons (e : Payload × Payload) (rest : List (Payload × Payload))
    (found : OrderedMap Action Payload) :
    bucketsOf (e :: rest) found = consider found e >>= bucketsOf rest := by
  obtain ⟨name, p⟩ := e
  rw [bucketsOf, consider]
  by_cases hkey : Payload.sameName name (.text "key") = true
  · rw [if_pos hkey, if_pos hkey]
    rfl
  · rw [if_neg hkey, if_neg hkey]
    cases Action.ofPayload? name with
    | none => rfl
    | some a =>
      by_cases ha : a ∈ found.keys
      · simp only [if_pos ha]
        rfl
      · simp only [if_neg ha]
        cases p <;> rfl

/-- No action has the name of the key. -/
theorem ne_key_of_ofName?_eq_some {s : String} {a : Action} (h : Action.ofName? s = some a) : s ≠ "key" := by
  rintro rfl
  cases h

/-- Only a text is the name of the key. -/
theorem sameName_key_iff {name : Payload} :
    Payload.sameName name (.text "key") = true ↔ name = .text "key" := by
  cases name <;> simp [Payload.sameName, Payload.equals, Payload.sameAtom, Payload.number?]

/-- The name of the key is not that of an action. -/
theorem ofPayload?_key : Action.ofPayload? (.text "key") = none :=
  rfl

/-- An entry is taken if it is the key, or if its action has not been found before; in this case the action
is found now, unless the entry is null. -/
theorem consider_eq_ok_iff {found found' : OrderedMap Action Payload} {e : Payload × Payload} :
    consider found e = .ok found' ↔
      (e.1 = .text "key" ∧ found' = found) ∨
      ∃ a, Action.ofPayload? e.1 = some a ∧ a ∉ found.keys ∧
        ((e.2 = .null ∧ found' = found) ∨ (e.2 ≠ .null ∧ found' = found.insert a e.2)) := by
  obtain ⟨name, p⟩ := e
  rw [consider]
  by_cases hkey : Payload.sameName name (.text "key") = true
  · obtain rfl := sameName_key_iff.1 hkey
    simp [hkey, ofPayload?_key, eq_comm]
  · have hname : name ≠ .text "key" := mt sameName_key_iff.2 hkey
    cases ha : Action.ofPayload? name with
    | none => simp [hkey, hname]
    | some a =>
      by_cases hfound : a ∈ found.keys
      · simp [hkey, hname, hfound]
      · cases p <;> simp [hkey, hname, hfound, eq_comm]

/-! ## All entries -/

variable {entries : List (Payload × Payload)} {found m : OrderedMap Action Payload}

/-- One more entry is well named if it is the key or names an action, and no later one repeats it. -/
theorem wellNamed_cons_iff {e : Payload × Payload} {rest : List (Payload × Payload)} :
    WellNamed (e :: rest) ↔ (e.1 = .text "key" ∨ ∃ a, Action.ofPayload? e.1 = some a) ∧
      (∀ later ∈ rest, ¬ Repeats e later) ∧ WellNamed rest := by
  constructor
  · rintro ⟨hnamed, hsingle⟩
    rw [List.forall_mem_cons] at hnamed
    rw [List.pairwise_cons] at hsingle
    exact ⟨hnamed.1, hsingle.1, hnamed.2, hsingle.2⟩
  · rintro ⟨hname, hlater, hnamed, hsingle⟩
    exact ⟨List.forall_mem_cons.2 ⟨hname, hnamed⟩, List.pairwise_cons.2 ⟨hlater, hsingle⟩⟩

/-- The buckets are found exactly if the entries are well named and none names an action that has been found
before. -/
theorem exists_bucketsOf_iff :
    (∃ m, bucketsOf entries found = .ok m) ↔ WellNamed entries ∧ Fresh found entries := by
  induction entries generalizing found with
  | nil => exact iff_of_true ⟨found, rfl⟩ ⟨⟨nofun, .nil⟩, nofun⟩
  | cons e rest ih =>
    have hfind : (∃ m, bucketsOf (e :: rest) found = .ok m) ↔
        ∃ found', consider found e = .ok found' ∧ WellNamed rest ∧ Fresh found' rest := by
      simp only [bucketsOf_cons, bind_eq_ok_iff, ← ih]
      exact ⟨fun ⟨m, found', h, hm⟩ => ⟨found', h, m, hm⟩, fun ⟨found', h, m, hm⟩ => ⟨m, found', h, hm⟩⟩
    rw [hfind, wellNamed_cons_iff, Fresh, List.forall_mem_cons]
    constructor
    · rintro ⟨found', hstep, hrest, hfresh⟩
      rcases consider_eq_ok_iff.1 hstep with ⟨hkey, rfl⟩ | ⟨a, ha, hnew, hcase⟩
      · rw [hkey, ofPayload?_key]
        refine ⟨⟨.inl rfl, fun later _ hrepeats => ?_, hrest⟩, nofun, hfresh⟩
        obtain ⟨-, a, ha, -⟩ := hrepeats
        rw [hkey, ofPayload?_key] at ha
        cases ha
      · have hnew (b : Action) (hb : Action.ofPayload? e.1 = some b) : b ∉ found.keys :=
          Option.some.inj (ha.symm.trans hb) ▸ hnew
        rcases hcase with ⟨hnull, rfl⟩ | ⟨hp, rfl⟩
        · exact ⟨⟨.inr ⟨a, ha⟩, fun _ _ hrepeats => hrepeats.1 hnull, hrest⟩, hnew, hfresh⟩
        · refine ⟨⟨.inr ⟨a, ha⟩, fun later hlater hrepeats => ?_, hrest⟩, hnew, ?_⟩
          · obtain ⟨-, b, hb, hlaterb⟩ := hrepeats
            obtain rfl := Option.some.inj (ha.symm.trans hb)
            exact hfresh later hlater a hlaterb (OrderedMap.mem_keys_insert.2 (.inl rfl))
          · exact fun later hlater b hb hmem =>
              hfresh later hlater b hb (OrderedMap.mem_keys_insert.2 (.inr hmem))
    · rintro ⟨⟨hkey | ⟨a, ha⟩, hlater, hrest⟩, hnew, hfresh⟩
      · exact ⟨found, consider_eq_ok_iff.2 (.inl ⟨hkey, rfl⟩), hrest, hfresh⟩
      · by_cases hp : e.2 = .null
        · exact ⟨found, consider_eq_ok_iff.2 (.inr ⟨a, ha, hnew a ha, .inl ⟨hp, rfl⟩⟩), hrest, hfresh⟩
        · refine ⟨found.insert a e.2, consider_eq_ok_iff.2 (.inr ⟨a, ha, hnew a ha, .inr ⟨hp, rfl⟩⟩), hrest, ?_⟩
          intro later hlater' b hb hmem
          rcases OrderedMap.mem_keys_insert.1 hmem with rfl | hmem
          · exact hlater later hlater' ⟨hp, b, ha, hb⟩
          · exact hfresh later hlater' b hb hmem

/-- Null buckets that come in time can be left out. -/
theorem bucketsOf_filter {dropped : Payload × Payload → Bool}
    (hnull : ∀ e ∈ entries, dropped e = true → IsNullBucket e) (htimely : Timely dropped entries)
    (hfresh : Fresh found (entries.filter dropped)) :
    bucketsOf (entries.filter fun e => !dropped e) found = bucketsOf entries found := by
  induction entries generalizing found with
  | nil => rfl
  | cons e rest ih =>
    obtain ⟨hnull_e, hnull⟩ := List.forall_mem_cons.1 hnull
    obtain ⟨htimely_e, htimely⟩ := List.pairwise_cons.1 htimely
    rw [bucketsOf_cons]
    cases hdropped : dropped e with
    | true =>
      rw [List.filter_cons_of_pos hdropped] at hfresh
      obtain ⟨hnew, hfresh⟩ := List.forall_mem_cons.1 hfresh
      obtain ⟨hp, a, ha⟩ := hnull_e hdropped
      have hstep : consider found e = .ok found :=
        consider_eq_ok_iff.2 (.inr ⟨a, ha, hnew a ha, .inl ⟨hp, rfl⟩⟩)
      rw [List.filter_cons_of_neg (by simp [hdropped]), hstep]
      exact ih hnull htimely hfresh
    | false =>
      rw [List.filter_cons_of_neg (by simp [hdropped])] at hfresh
      rw [List.filter_cons_of_pos (by simp [hdropped]), bucketsOf_cons]
      cases hstep : consider found e with
      | error r => rfl
      | ok found' =>
        refine ih hnull htimely ?_
        rcases consider_eq_ok_iff.1 hstep with ⟨-, rfl⟩ | ⟨a, ha, -, ⟨-, rfl⟩ | ⟨hp, rfl⟩⟩
        · exact hfresh
        · exact hfresh
        · intro later hlater b hb hmem
          rcases OrderedMap.mem_keys_insert.1 hmem with rfl | hmem
          · obtain ⟨hlater, hdrop⟩ := List.mem_filter.1 hlater
            exact htimely_e later hlater hdrop ⟨hp, b, ha, hb⟩
          · exact hfresh later hlater b hb hmem

/-- Null buckets are not in the way of the key. -/
theorem entry?_filter {dropped : Payload × Payload → Bool}
    (hnull : ∀ e ∈ entries, dropped e = true → IsNullBucket e) :
    Payload.entry? (entries.filter fun e => !dropped e) "key" = Payload.entry? entries "key" := by
  induction entries with
  | nil => rfl
  | cons e rest ih =>
    obtain ⟨hnull_e, hrest⟩ := List.forall_mem_cons.1 hnull
    cases hdropped : dropped e with
    | true =>
      obtain ⟨name, p⟩ := e
      obtain ⟨-, a, ha⟩ := hnull_e hdropped
      rw [List.filter_cons_of_neg (by simp [hdropped]), ih hrest]
      cases name with
      | text s => simp [Payload.entry?, ne_key_of_ofName?_eq_some ha]
      | _ => cases ha
    | false =>
      rw [List.filter_cons_of_pos (by simp [hdropped]), Payload.entry?, Payload.entry?, List.find?_cons,
        List.find?_cons]
      split
      · rfl
      · exact ih hrest

/-! ## Requests -/

/-- An outcome is the same as itself. -/
theorem SameOutcome.refl (x : Except Rejection Request) : SameOutcome x x := by
  cases x <;> rfl

section Dropped

variable {dropped : Payload × Payload → Bool} (hnull : ∀ e ∈ entries, dropped e = true → IsNullBucket e)
include hnull

/-- Null buckets that come in time make no difference. -/
theorem ofPayload_filter_of_timely (htimely : Timely dropped entries) :
    ofPayload (.mapping entries) = ofPayload (.mapping (entries.filter fun e => !dropped e)) := by
  have hfresh : Fresh .empty (entries.filter dropped) := fun _ _ _ _ => OrderedMap.not_mem_keys_empty _
  rw [ofPayload_mapping, ofPayload_mapping, entry?_filter hnull, bucketsOf_filter hnull htimely hfresh]

omit hnull in
/-- A request with a bucket that is late is refused. -/
theorem exists_of_not_timely (hlate : ¬ Timely dropped entries) :
    ∃ e, ofPayload (.mapping entries) = .error e ∧ (e.kind = .malformedKey ∨ e.kind = .malformedRequest) := by
  rw [ofPayload_mapping]
  cases hkey : Key.ofPayload ((Payload.entry? entries "key").getD .null) with
  | error e => exact ⟨e, rfl, .inl (List.mem_singleton.1 (Key.failsOnly_ofPayload _ e hkey))⟩
  | ok key =>
    cases hfound : bucketsOf entries .empty with
    | error e => exact ⟨e, rfl, .inr (List.mem_singleton.1 (failsOnly_bucketsOf _ _ e hfound))⟩
    | ok found =>
      obtain ⟨⟨-, hsingle⟩, -⟩ := exists_bucketsOf_iff.1 ⟨found, hfound⟩
      refine (hlate (hsingle.imp ?_)).elim
      intro earlier later h _
      exact h

end Dropped

/-- An entry under the second name of the first action. -/
def isSet (e : Payload × Payload) : Bool :=
  match e.1 with
  | .text s => s == "set"
  | _ => false

/-- The entries of a request that assigns a field. -/
def assignStatus : List (Payload × Payload) :=
  [(.text "key", .mapping [(.text "pk", .text "case"), (.text "sk", .int 1)]),
    (.text "assign", .mapping [(.text "status", .text "open")])]

/-- The entry of a null bucket for the same action. -/
def setNull : Payload × Payload := (.text "set", .null)

/-- The null bucket is a null bucket. -/
theorem isNullBucket_setNull : IsNullBucket setNull := ⟨rfl, .assign, by decide⟩

end Amend.Request
