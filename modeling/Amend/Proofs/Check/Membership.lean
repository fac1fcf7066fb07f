import Amend.Check.Run
import Amend.Proofs.Payload.Equality
import Amend.Proofs.Payload.Shown
import Amend.Proofs.Value.Unwrapping

/-!
# The check for allowed values

The check for allowed values passes a value if an equal one is allowed, and otherwise refuses it
(`Check.answers_memberOf_list`). Equality does not keep truth values apart from the numbers one and zero, and what the
store holds does: a truth value passes where its number is allowed, and the number where the truth value is. So what
has passed has the tags of an allowed value only if no part of it counts as a truth value, and this is all that can be
in the way (`Check.run_listed_storedAlike_iff`).

That there is no other way to pass a check with other tags is a matter of numbers: what is equal and no number is of
the same kind (`Value.CountsAs.kind_eq_or`). That there is always this one is shown by a value with each truth value
exchanged for its number and the other way round (`Value.exchanged`): it is equal to the first, and has another tag
wherever a part counts as a truth value.
-/

namespace Amend

namespace Value

/-! ## Truth values and numbers -/

/-- A value counts as a truth value in comparisons: it is one, or a number that is one or zero. -/
def CountsAsTruth (v : Value) : Prop :=
  ∃ b, v.CountsAs (.boolean b)

/-- Either of two values counts as the other. -/
theorem CountsAs.symm {v w : Value} (h : CountsAs v w) : CountsAs w v := by
  cases h with
  | null => exact .null
  | text s => exact .text s
  | sequence xs ys => exact .sequence ys xs
  | mapping es fs => exact .mapping fs es
  | number hv hw hsame => exact .number hw hv hsame.symm

/-- What counts as one another is of one kind, or counts as a truth value. -/
theorem CountsAs.kind_eq_or {v w : Value} (h : CountsAs v w) : v.kind = w.kind ∨ w.CountsAsTruth := by
  cases h with
  | number hm hn hsame =>
    cases w with
    | boolean b => exact .inr ⟨b, .number hn hn rfl⟩
    | number n =>
      cases v with
      | boolean b => exact .inr ⟨b, .number hn hm hsame.symm⟩
      | number m => exact .inl rfl
      | _ => cases hm
    | _ => cases hn
  | _ => exact .inl rfl

/-- What counts as no number counts as no truth value. -/
theorem not_countsAsTruth {v : Value} (h : v.toPayload.number? = none) : ¬ v.CountsAsTruth := by
  rintro ⟨b, hb⟩
  cases hb with
  | number hm => cases h.symm.trans hm

/-- The number that counts as a truth value. -/
def ofTruth (b : Bool) : StoredNumber :=
  ⟨.int b.toNat, by cases b <;> decide⟩

/-- A number, exchanged for the truth value that it counts as, if there is one. -/
def exchangedNumber (n : StoredNumber) : Value :=
  if n.number.same (.int 1) then .boolean true
  else if n.number.same (.int 0) then .boolean false
  else .number n

mutual

/-- A value with every truth value in it exchanged for its number, and every such number for its truth value. -/
def exchanged : Value → Value
  | .null => .null
  | .boolean b => .number (ofTruth b)
  | .number n => exchangedNumber n
  | .text s => .text s
  | .sequence items => .sequence (exchangedItems items)
  | .mapping entries => .mapping (exchangedEntries entries)

/-- The items of a sequence, exchanged. -/
def exchangedItems : List Value → List Value
  | [] => []
  | v :: rest => v.exchanged :: exchangedItems rest

/-- The entries of a mapping, exchanged under their names. -/
def exchangedEntries : List (String × Value) → List (String × Value)
  | [] => []
  | (name, v) :: rest => (name, v.exchanged) :: exchangedEntries rest

end

theorem exchangedItems_eq_map (items : List Value) : exchangedItems items = items.map exchanged := by
  induction items with
  | nil => rfl
  | cons v rest ih => rw [exchangedItems, ih, List.map_cons]

theorem exchangedEntries_eq_map (entries : List (String × Value)) :
    exchangedEntries entries = entries.map fun e => (e.1, e.2.exchanged) := by
  induction entries with
  | nil => rfl
  | cons e rest ih => rw [exchangedEntries, ih, List.map_cons]

/-- A number that counts as a truth value has the value of its number. -/
theorem countsAs_boolean_iff {n : StoredNumber} {b : Bool} :
    CountsAs (.number n) (.boolean b) ↔ n.number.same (.int b.toNat) = true := by
  rw [Number.same_iff_extended? (Number.isNaN_exact_of_storable n.storable) rfl]
  constructor
  · intro h
    cases h with
    | number hm hn hsame =>
      cases hm
      cases hn
      exact hsame
  · exact .number rfl rfl

/-- A number is exchanged for the truth value that it counts as, or stays as it is because there is none. -/
theorem exchangedNumber_cases (n : StoredNumber) :
    (∃ b, CountsAs (.number n) (.boolean b) ∧ exchangedNumber n = .boolean b) ∨
      ¬ CountsAsTruth (.number n) ∧ exchangedNumber n = .number n := by
  rw [exchangedNumber]
  split
  · rename_i hone
    exact .inl ⟨true, countsAs_boolean_iff.2 hone, rfl⟩
  · rename_i hone
    split
    · rename_i hzero
      exact .inl ⟨false, countsAs_boolean_iff.2 hzero, rfl⟩
    · rename_i hzero
      refine .inr ⟨?_, rfl⟩
      rintro ⟨b, hb⟩
      cases b with
      | true => exact hone (countsAs_boolean_iff.1 hb)
      | false => exact hzero (countsAs_boolean_iff.1 hb)

/-- What has been exchanged counts as what it was. -/
theorem exchanged_countsAs (v : Value) : v.exchanged.CountsAs v := by
  cases v with
  | null => exact .null
  | boolean b => exact .number rfl rfl rfl
  | number n =>
    rw [exchanged]
    obtain ⟨b, hb, hn⟩ | ⟨-, hn⟩ := exchangedNumber_cases n
    · rw [hn]
      exact hb.symm
    · rw [hn]
      exact .number rfl rfl rfl
  | text s => exact .text s
  | sequence items => exact .sequence _ _
  | mapping entries => exact .mapping _ _

/-- What counts as a truth value is of another kind when it has been exchanged. -/
theorem CountsAsTruth.kind_exchanged_ne {v : Value} (h : v.CountsAsTruth) : v.exchanged.kind ≠ v.kind := by
  cases v with
  | boolean b => nofun
  | number n =>
    rw [exchanged]
    obtain ⟨b, -, hn⟩ | ⟨hnot, -⟩ := exchangedNumber_cases n
    · rw [hn]
      nofun
    · exact absurd h hnot
  | _ => exact absurd h (not_countsAsTruth rfl)

/-- A step into what has been exchanged leads to what has been there, exchanged. -/
theorem step?_exchanged (v : Value) (s : Step) : v.exchanged.step? s = (v.step? s).map exchanged := by
  cases v with
  | number n =>
    rw [exchanged]
    obtain ⟨b, -, hn⟩ | ⟨-, hn⟩ := exchangedNumber_cases n
    · rw [hn]
      rfl
    · rw [hn]
      rfl
  | sequence items =>
    rw [exchanged, exchangedItems_eq_map]
    cases s with
    | item i => exact List.getElem?_map
    | entry name => rfl
  | mapping entries =>
    rw [exchanged, exchangedEntries_eq_map]
    cases s with
    | item i => rfl
    | entry name => exact OrderedMap.find_map exchanged name entries
  | _ => rfl

/-- What has been exchanged has the parts of what it was at their positions, exchanged. -/
theorem part?_exchanged (v : Value) (position : List Step) :
    v.exchanged.part? position = (v.part? position).map exchanged := by
  induction position generalizing v with
  | nil => rfl
  | cons s rest ih =>
    rw [part?, part?, step?_exchanged]
    cases v.step? s with
    | none => rfl
    | some x => exact ih x

/-- What has been exchanged counts at every position as what it was. -/
theorem everywhere_countsAs_exchanged (v : Value) : Everywhere CountsAs v.exchanged v := by
  intro position
  rw [part?_exchanged]
  cases v.part? position with
  | none => exact .none
  | some x => exact .some x.exchanged_countsAs

/-- Names are exchanged for nothing. -/
theorem NamesDistinct.exchanged {v : Value} (h : v.NamesDistinct) : v.exchanged.NamesDistinct := by
  intro position x hx
  rw [part?_exchanged, Option.map_eq_some_iff] at hx
  obtain ⟨y, hy, rfl⟩ := hx
  intro entries hentries
  cases y with
  | mapping es =>
    rw [Value.exchanged, mapping.injEq, exchangedEntries_eq_map] at hentries
    rw [← hentries, List.map_map]
    exact h position _ hy es rfl
  | number n =>
    obtain ⟨b, -, hn⟩ | ⟨-, hn⟩ := exchangedNumber_cases n
    · cases hn.symm.trans hentries
    · cases hn.symm.trans hentries
  | _ => cases hentries

end Value

namespace Payload

/-- Two payloads are stored with the same tags at every position. -/
def StoredAlike (p q : Payload) : Prop :=
  ∃ a b, p.toAttribute = .ok a ∧ q.toAttribute = .ok b ∧ a.SameTags b

/-- Payloads that can be classified are stored with the same tags if their values have the same kinds everywhere. -/
theorem storedAlike_iff {p q : Payload} {v w : Value} (hp : Value.ofPayload p = .ok v)
    (hq : Value.ofPayload q = .ok w) :
    p.StoredAlike q ↔ Value.Everywhere (fun x y => x.kind = y.kind) v w := by
  rw [StoredAlike, toAttribute, toAttribute, hp, hq, ← Value.sameTags_toAttribute_iff]
  constructor
  · rintro ⟨a, b, ⟨⟩, ⟨⟩, hsame⟩
    exact hsame
  · exact fun hsame => ⟨_, _, rfl, rfl, hsame⟩

end Payload

/-! ## The check -/

namespace Check

/-- A list of values that may be allowed: each can be classified, and its names are distinct. -/
def IsAllowList (allowed : List Payload) : Prop :=
  ∀ q ∈ allowed, ∃ w, Value.ofPayload q = .ok w ∧ w.NamesDistinct

variable {allowed : List Payload} {v : Value}

/-- Such a list can be shown. -/
theorem IsAllowList.areShowable (h : IsAllowList allowed) : Payload.areShowable allowed = true := by
  rw [Payload.areShowable_eq_all, List.all_eq_true]
  intro q hq
  obtain ⟨w, hw, -⟩ := h q hq
  exact Value.isShowable_of_ofPayload hw

/-- A value is in a list of values if the list has one, as plain data, that counts as it at every position. -/
theorem answers_memberOf_list (hallowed : IsAllowList allowed) (hv : v.NamesDistinct) :
    Answers (v.toPayload.memberOf (.list allowed))
      (∃ w : Value, w.toPayload ∈ allowed ∧ Value.Everywhere Value.CountsAs w v) := by
  rw [Payload.memberOf]
  have hequals : ∀ q ∈ allowed, Answers (Payload.equals q v.toPayload)
      (∃ w : Value, q = w.toPayload ∧ Value.Everywhere Value.CountsAs w v) := by
    intro q hq
    obtain ⟨w, hw, hnames⟩ := hallowed q hq
    refine (Payload.equals_toPayload hw hnames hv).congr ⟨fun h => ⟨w, h⟩, ?_⟩
    rintro ⟨w', rfl, hcounts⟩
    -- plain data is classified as the value that it is of
    rw [Value.ofPayload_toPayload, Except.ok.injEq] at hw
    exact hw ▸ ⟨rfl, hcounts⟩
  refine (answers_anyM hequals).congr ?_
  constructor
  · rintro ⟨q, hq, w, rfl, hcounts⟩
    exact ⟨w, hq, hcounts⟩
  · rintro ⟨w, hw, hcounts⟩
    exact ⟨_, hw, w, rfl, hcounts⟩

/-- The check for the values of a list passes a value if it is in the list, and otherwise refuses it. -/
theorem run_listed_list {p : Prop} (hallowed : IsAllowList allowed)
    (h : Answers (v.toPayload.memberOf (.list allowed)) p) :
    (run (.listed (.list allowed)) v.toPayload = .ok () ↔ p) ∧
      (run (.listed (.list allowed)) v.toPayload = .ok () ∨
        run (.listed (.list allowed)) v.toPayload = .error (.refused (.notListed v.toPayload allowed))) := by
  obtain ⟨b, hmember, hb⟩ := h
  rw [run, runListed, hmember]
  cases b with
  | true => exact ⟨iff_of_true rfl (hb.1 rfl), .inl rfl⟩
  | false =>
    have htold : told (Violation.notListed v.toPayload allowed) = .refused _ :=
      told_of_isTellable (Bool.and_eq_true_iff.2 ⟨v.isShowable_toPayload, hallowed.areShowable⟩)
    exact ⟨iff_of_false nofun fun hp => Bool.false_ne_true (hb.2 hp), .inr (congrArg Except.error htold)⟩

/-- What has been allowed is stored with the tags of an allowed value, if no part of it counts as a truth value. -/
theorem exists_storedAlike {raw : Payload} (hraw : Value.ofPayload raw = .ok v) (hallowed : IsAllowList allowed)
    (hv : v.NamesDistinct) (hapart : v.Throughout fun x => ¬ x.CountsAsTruth)
    (hrun : run (.listed (.list allowed)) v.toPayload = .ok ()) : ∃ q ∈ allowed, q.StoredAlike raw := by
  obtain ⟨w, hw, hcounts⟩ := (run_listed_list hallowed (answers_memberOf_list hallowed hv)).1.1 hrun
  refine ⟨w.toPayload, hw, (Payload.storedAlike_iff (Value.ofPayload_toPayload w) hraw).2 ?_⟩
  refine hcounts.imp fun position x y _ hy hxy => ?_
  exact hxy.kind_eq_or.resolve_right (hapart position y hy)

/-- A value passes where only the exchanged one is allowed, but is not stored with the tags of that one if a part of it
counts as a truth value. -/
theorem run_listed_exchanged {raw : Payload} (hraw : Value.ofPayload raw = .ok v) (hv : v.NamesDistinct)
    (hmixed : ¬ v.Throughout fun x => ¬ x.CountsAsTruth) :
    IsAllowList [v.exchanged.toPayload] ∧
      run (.listed (.list [v.exchanged.toPayload])) v.toPayload = .ok () ∧
      ¬ ∃ q ∈ [v.exchanged.toPayload], q.StoredAlike raw := by
  have hexchanged := Value.ofPayload_toPayload v.exchanged
  have hallowed : IsAllowList [v.exchanged.toPayload] :=
    List.forall_mem_singleton.2 ⟨v.exchanged, hexchanged, hv.exchanged⟩
  refine ⟨hallowed, ?_, ?_⟩
  · exact (run_listed_list hallowed (answers_memberOf_list hallowed hv)).1.2
      ⟨v.exchanged, List.mem_cons_self, v.everywhere_countsAs_exchanged⟩
  · rintro ⟨q, hq, halike⟩
    obtain rfl := List.mem_singleton.1 hq
    have hkinds := (Payload.storedAlike_iff hexchanged hraw).1 halike
    refine hmixed fun position x hx htruth => htruth.kind_exchanged_ne ?_
    have hposition := hkinds position
    rw [Value.part?_exchanged, hx, Option.map_some, Option.rel_some_some] at hposition
    exact hposition

/-- The check for allowed values passes a value exactly if an allowed one counts as it at every position, and otherwise
refuses it. Whatever passes is stored with the tags of an allowed value if and only if no part of it counts as a truth
value. -/
theorem run_listed_storedAlike_iff {raw : Payload} {v : Value} (hraw : Value.ofPayload raw = .ok v)
    (hv : v.NamesDistinct) :
    (∀ allowed, IsAllowList allowed →
      (run (.listed (.list allowed)) v.toPayload = .ok () ↔
        ∃ w : Value, w.toPayload ∈ allowed ∧ Value.Everywhere Value.CountsAs w v) ∧
      (run (.listed (.list allowed)) v.toPayload = .ok () ∨
        run (.listed (.list allowed)) v.toPayload = .error (.refused (.notListed v.toPayload allowed)))) ∧
    ((∀ allowed, IsAllowList allowed → run (.listed (.list allowed)) v.toPayload = .ok () →
        ∃ q ∈ allowed, q.StoredAlike raw) ↔
      v.Throughout fun x => ¬ x.CountsAsTruth) := by
  refine ⟨fun allowed hallowed => run_listed_list hallowed (answers_memberOf_list hallowed hv), ?_, ?_⟩
  · intro hall
    by_contra hmixed
    obtain ⟨hallowed, hrun, hnone⟩ := run_listed_exchanged hraw hv hmixed
    exact hnone (hall _ hallowed hrun)
  · exact fun hapart allowed hallowed hrun => exists_storedAlike hraw hallowed hv hapart hrun

/-- A text and a sequence of one number, none of which counts as a truth value. -/
def copies : Value :=
  .mapping [("state", .text "open"), ("copies", .sequence [.number ⟨.int 2, by decide⟩])]

theorem run_listed_storedAlike_copies :
    Value.ofPayload copies.toPayload = .ok copies ∧ copies.NamesDistinct ∧
      ∀ allowed, IsAllowList allowed → run (.listed (.list allowed)) copies.toPayload = .ok () →
        ∃ q ∈ allowed, q.StoredAlike copies.toPayload := by
  have hcopies := Value.ofPayload_toPayload copies
  -- what holds of the four parts holds throughout
  have hthroughout {P : Value → Prop} (hroot : P copies) (htext : P (.text "open"))
      (hsequence : P (.sequence [.number ⟨.int 2, by decide⟩])) (htwo : P (.number ⟨.int 2, by decide⟩)) :
      copies.Throughout P :=
    Value.throughout_mapping hroot (List.forall_mem_cons.2
      ⟨Value.throughout_of_step?_eq_none htext fun _ => rfl, List.forall_mem_singleton.2
        (Value.throughout_sequence hsequence (List.forall_mem_singleton.2
          (Value.throughout_of_step?_eq_none htwo fun _ => rfl)))⟩)
  have hnames : copies.NamesDistinct := by
    refine hthroughout ?_ nofun nofun nofun
    rintro _ ⟨⟩
    decide
  have htwo : ¬ (Value.number ⟨.int 2, by decide⟩).CountsAsTruth := by
    rintro ⟨b, hb⟩
    have hsame := Value.countsAs_boolean_iff.1 hb
    cases b with
    | true => exact absurd hsame (by decide)
    | false => exact absurd hsame (by decide)
  have hapart : copies.Throughout fun x => ¬ x.CountsAsTruth :=
    hthroughout (Value.not_countsAsTruth rfl) (Value.not_countsAsTruth rfl) (Value.not_countsAsTruth rfl) htwo
  exact ⟨hcopies, hnames, (run_listed_storedAlike_iff hcopies hnames).2.2 hapart⟩

/-- A truth value passes where its number is allowed, and is stored with another tag. -/
theorem run_listed_true_one :
    Value.ofPayload (.boolean true) = .ok (.boolean true) ∧ IsAllowList [.int 1] ∧
      run (.listed (.list [.int 1])) (Value.boolean true).toPayload = .ok () ∧
      ¬ ∃ q ∈ [Payload.int 1], q.StoredAlike (.boolean true) := by
  have hnames : (Value.boolean true).NamesDistinct := Value.throughout_of_step?_eq_none nofun fun _ => rfl
  have htruth : (Value.boolean true).CountsAsTruth := ⟨true, .number rfl rfl rfl⟩
  exact ⟨rfl, run_listed_exchanged (v := .boolean true) rfl hnames fun hapart => hapart.self htruth⟩

end Check

end Amend
