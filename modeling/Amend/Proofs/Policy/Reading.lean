import Amend.Batch
import Amend.Proofs.Payload.Shown
import Amend.Proofs.Policy.Options

/-!
# How reading a policy can end

A policy is read from a payload, and what is wrong with its structure should be a policy error. There are three
ways to a fault instead, which ends the call without naming the policy. A member of a field list that can be no
member of a set is found when the set is made, before it is asked whether it is a text (`UnreadableList.member`).
A payload that is neither a guard nor a collection is asked for its elements, before it is asked whether these are
guards (`UnreadableGuards.elements`). And an error that is found cannot be told if what it quotes is an integer that
is too long to be written, or has one in it; then the fault is `Fault.longInteger`. All three need that what is
looked at before is in order. There is no other way to a fault: everything else is read, or is a policy error
(`Policy.reads_or_refuses_iff`).
-/

namespace Amend

/-- An entry of a list is the first one, or one behind it. -/
theorem exists_split_cons_iff {γ : Type} {x : γ} {rest : List γ} {P : List γ → γ → Prop} :
    (∃ front y back, x :: rest = front ++ y :: back ∧ P front y) ↔
      P [] x ∨ ∃ front y back, rest = front ++ y :: back ∧ P (x :: front) y := by
  constructor
  · rintro ⟨front, y, back, hsplit, h⟩
    cases front with
    | nil =>
      obtain ⟨rfl, -⟩ := List.cons.inj hsplit
      exact .inl h
    | cons z front =>
      obtain ⟨rfl, hrest⟩ := List.cons.inj hsplit
      exact .inr ⟨front, y, back, hrest, h⟩
  · rintro (h | ⟨front, y, back, rfl, h⟩)
    · exact ⟨[], x, rest, rfl, h⟩
    · exact ⟨x :: front, y, back, rfl, h⟩

/-! ## Options -/

/-- What is given cannot be shown. -/
def Unshown (given : Option Payload) : Prop :=
  ∃ p, given = some p ∧ p.isShowable = false

/-- The first name of a mapping that stands for no option cannot be shown. -/
def UnshownName {ω : Type} (ofName? : String → Option ω) (p : Payload) : Prop :=
  ∃ entries, p = .mapping entries ∧ Unshown (firstUnknown? ofName? entries)

/-- A flag ends in a fault exactly if what is given for it cannot be shown. Then it is no flag. -/
theorem readFlag_eq_fault_iff {option : String} {default : Bool} {given : Option Payload} {f : Fault} :
    orRefuse (readFlag option default given) = .error (.fault f) ↔ Unshown given ∧ f = .longInteger := by
  rw [orRefuse_eq_fault_iff]
  refine and_congr_left' ?_
  unfold readFlag
  split
  · exact iff_of_false nofun nofun
  · refine iff_of_false nofun ?_
    rintro ⟨_, ⟨⟩, h⟩
    cases h
  · rename_i p _
    constructor
    · rintro ⟨_, ⟨⟩, h⟩
      exact ⟨p, rfl, h⟩
    · rintro ⟨_, ⟨⟩, h⟩
      exact ⟨_, rfl, h⟩

/-- Options end in a fault exactly if the first name that stands for none of them cannot be shown. -/
theorem optionsOf_eq_fault_iff {ω : Type} {part : PolicyPart} {ofName? : String → Option ω} {p : Payload}
    {f : Fault} :
    orRefuse (optionsOf part ofName? p) = .error (.fault f) ↔ UnshownName ofName? p ∧ f = .longInteger := by
  rw [orRefuse_eq_fault_iff]
  refine and_congr_left' ?_
  unfold optionsOf
  split
  · rename_i entries
    simp only [readOptions_eq_error_iff]
    constructor
    · rintro ⟨_, ⟨name, hname, rfl⟩, h⟩
      exact ⟨entries, rfl, name, hname, h⟩
    · rintro ⟨_, ⟨⟩, name, hname, h⟩
      exact ⟨_, ⟨name, hname, rfl⟩, h⟩
  · rename_i hmapping
    refine iff_of_false ?_ ?_
    · rintro ⟨_, ⟨⟩, h⟩
      cases h
    · rintro ⟨entries, rfl, -⟩
      exact hmapping _ rfl

/-! ## Field lists -/

/-- The members of a field list, if it is one: a text and bytes are none. -/
def Payload.listed? : Payload → Option (List Payload)
  | .text _ | .bytes _ => none
  | p => p.elements?

/-- A field list cannot be read. -/
inductive UnreadableList (p : Payload) (f : Fault) : Prop where
  /-- It can be no set, because of the first of its members that can be no member of one. -/
  | member {items : List Payload} (hitems : p.listed? = some items) (hhash : Payload.itemsHashFault? items = some f)
  /-- It is a set, and the first of its members that is no text cannot be shown. -/
  | untold {items : List Payload} (hitems : p.listed? = some items) (hhash : Payload.itemsHashFault? items = none)
      (hlong : Unshown ((p.visited items).find? fun q => !q.isText)) (hfault : f = .longInteger)

/-- Payloads are looked at one after another for one that can be no member of a set. -/
theorem allHashed_eq (items : List Payload) :
    allHashed items = match Payload.itemsHashFault? items with
      | none => .ok ()
      | some f => .error f := by
  induction items with
  | nil => rfl
  | cons p rest ih =>
    rw [allHashed, Payload.hashed, Payload.itemsHashFault?]
    cases p.hashFault? with
    | none => exact ih
    | some g => rfl

/-- Names of fields are refused for the first payload that is no text. -/
theorem textNames_eq_error_iff {option : String} {ps : List Payload} {e : PolicyError} :
    textNames option ps = .error e ↔
      ∃ p, ps.find? (fun q => !q.isText) = some p ∧ e = .badFieldName option p := by
  induction ps with
  | nil => exact iff_of_false nofun nofun
  | cons p rest ih =>
    rw [List.find?_cons]
    cases p with
    | text s => exact bind_ok_eq_error_iff.trans ih
    | _ =>
      constructor
      · rintro ⟨⟩
        exact ⟨_, rfl, rfl⟩
      · rintro ⟨_, ⟨⟩, rfl⟩
        rfl

/-- A field set ends in a fault exactly if the field list cannot be read. -/
theorem readFieldSet_eq_fault_iff {option : String} {given : Option Payload} {f : Fault} :
    readFieldSet option given = .error (.fault f) ↔ ∃ p, given = some p ∧ UnreadableList p f := by
  have hnone {p : Payload} (h : p.listed? = none) : ¬ UnreadableList p f := by
    rintro (⟨hitems, -⟩ | ⟨hitems, -⟩)
    · cases h.symm.trans hitems
    · cases h.symm.trans hitems
  unfold readFieldSet
  split
  · exact iff_of_false nofun nofun
  · refine iff_of_false nofun ?_
    rintro ⟨_, ⟨⟩, h⟩
    exact hnone rfl h
  · refine iff_of_false nofun ?_
    rintro ⟨_, ⟨⟩, h⟩
    exact hnone rfl h
  · refine iff_of_false nofun ?_
    rintro ⟨_, ⟨⟩, h⟩
    exact hnone rfl h
  · rename_i p hnull htext hbytes
    have hlist : p.listed? = p.elements? := by
      unfold Payload.listed?
      split
      · exact absurd rfl (htext _)
      · exact absurd rfl (hbytes _)
      · rfl
    cases hitems : p.elements? with
    | none =>
      refine iff_of_false nofun ?_
      rintro ⟨_, ⟨⟩, h⟩
      exact hnone (hlist.trans hitems) h
    | some items =>
      have hlist := hlist.trans hitems
      dsimp only
      rw [allHashed_eq]
      cases hhash : Payload.itemsHashFault? items with
      | some g =>
        constructor
        · rintro ⟨⟩
          exact ⟨p, rfl, .member hlist hhash⟩
        · rintro ⟨_, ⟨⟩, ⟨hitems', hhash'⟩ | ⟨hitems', hhash', -, -⟩⟩
          · cases hlist.symm.trans hitems'
            cases hhash.symm.trans hhash'
            rfl
          · cases hlist.symm.trans hitems'
            cases hhash.symm.trans hhash'
      | none =>
        refine bind_ok_eq_error_iff.trans ?_
        rw [orRefuse_eq_fault_iff]
        simp only [textNames_eq_error_iff]
        constructor
        · rintro ⟨⟨_, ⟨q, hq, rfl⟩, hlong⟩, hfault⟩
          exact ⟨p, rfl, .untold hlist hhash ⟨q, hq, hlong⟩ hfault⟩
        · rintro ⟨_, ⟨⟩, ⟨hitems', hhash'⟩ | ⟨hitems', -, ⟨q, hq, hlong⟩, hfault⟩⟩
          · cases hlist.symm.trans hitems'
            cases hhash.symm.trans hhash'
          · cases hlist.symm.trans hitems'
            exact ⟨⟨_, ⟨q, hq, rfl⟩, hlong⟩, hfault⟩

/-! ## Causes of faults -/

namespace Payload

mutual

/-- A value that can be no member of a set is a mapping, or has one in it. -/
theorem unhashable_of_valueHashFault? {v : Value} {f : Fault} (h : valueHashFault? v = some f) :
    ∃ type, f = .unhashable type := by
  cases v with
  | mapping entries => exact ⟨_, (Option.some.inj h).symm⟩
  | sequence items => exact unhashable_of_valuesHashFault? h
  | _ => cases h

/-- So is the first of some values that can be no member of a set. -/
theorem unhashable_of_valuesHashFault? {vs : List Value} {f : Fault} (h : valuesHashFault? vs = some f) :
    ∃ type, f = .unhashable type := by
  cases vs with
  | nil => cases h
  | cons v rest =>
    rcases Option.or_eq_some_iff.1 h with h | ⟨-, h⟩
    · exact unhashable_of_valueHashFault? h
    · exact unhashable_of_valuesHashFault? h

end

/-- A number can be no member of a set only if it is a signalling one. -/
theorem eq_signallingMember_of_numberHashFault? {n : Number} {f : Fault} (h : numberHashFault? n = some f) :
    f = .signallingMember := by
  unfold numberHashFault? at h
  split at h
  · exact (Option.some.inj h).symm
  · cases h

/-- A part of a key can be no member of a set only if it is a signalling number. -/
theorem eq_signallingMember_of_partHashFault? {k : KeyPart} {f : Fault} (h : partHashFault? k = some f) :
    f = .signallingMember := by
  cases k with
  | decimal d => exact eq_signallingMember_of_numberHashFault? h
  | _ => cases h

mutual

/-- A payload can be no member of a set because of its type, or because of a signalling number. -/
theorem cause_of_hashFault? {p : Payload} {f : Fault} (h : hashFault? p = some f) :
    (∃ type, f = .unhashable type) ∨ f = .signallingMember := by
  cases p with
  | number n => exact .inr (eq_signallingMember_of_numberHashFault? h)
  | list items | mapping entries | set members | policy p => exact .inl ⟨_, (Option.some.inj h).symm⟩
  | series type form items =>
    rw [hashFault?] at h
    split at h
    · cases h
    · exact .inl ⟨_, (Option.some.inj h).symm⟩
  | tuple items => exact cause_of_itemsHashFault? h
  | value v => exact .inl (unhashable_of_valueHashFault? h)
  | key k =>
    rcases Option.or_eq_some_iff.1 h with h | ⟨-, h⟩
    · exact .inr (eq_signallingMember_of_partHashFault? h)
    · exact .inr (eq_signallingMember_of_partHashFault? h)
  | request r =>
    rcases Option.or_eq_some_iff.1 h with h | ⟨-, h⟩
    · exact .inr (eq_signallingMember_of_partHashFault? h)
    · rcases Option.or_eq_some_iff.1 h with h | ⟨-, h⟩
      · exact .inr (eq_signallingMember_of_partHashFault? h)
      · exact .inl ⟨_, (Option.some.inj h).symm⟩
  | _ => cases h

/-- So can the first of some payloads that can be no member of a set. -/
theorem cause_of_itemsHashFault? {ps : List Payload} {f : Fault} (h : itemsHashFault? ps = some f) :
    (∃ type, f = .unhashable type) ∨ f = .signallingMember := by
  cases ps with
  | nil => cases h
  | cons p rest =>
    rcases Option.or_eq_some_iff.1 h with h | ⟨-, h⟩
    · exact cause_of_hashFault? h
    · exact cause_of_itemsHashFault? h

end

/-- A field list cannot be read because of a member that can be no member of a set, or that cannot be shown. -/
theorem cause_of_unreadableList {p : Payload} {f : Fault} (h : UnreadableList p f) :
    (∃ type, f = .unhashable type) ∨ f = .signallingMember ∨ f = .longInteger := by
  rcases h with ⟨hitems, hhash⟩ | ⟨hitems, hhash, hlong, hfault⟩
  · exact (cause_of_itemsHashFault? hhash).imp_right .inl
  · exact .inr (.inr hfault)

end Payload

/-! ## Field rules -/

/-- Only a mapping spells out options. -/
theorem exists_mapping_of_optionsOf {ω : Type} {part : PolicyPart} {ofName? : String → Option ω} {p : Payload}
    {options : List (ω × Payload)} (h : optionsOf part ofName? p = .ok options) :
    ∃ entries, p = .mapping entries := by
  unfold optionsOf at h
  split at h
  · exact ⟨_, rfl⟩
  · cases h

namespace FieldRule

/-- A field rule cannot be read: the name of an option, its flag or one of its field lists cannot be, and what is
looked at before is in order. -/
inductive Unreadable (p : Payload) (f : Fault) : Prop where
  | name (hname : UnshownName Setting.ofName? p) (hfault : f = .longInteger)
  | allowAll {options : List (Setting × Payload)}
      (hoptions : optionsOf .actionRule Setting.ofName? p = .ok options)
      (hall : Unshown (given? .allowAll options)) (hfault : f = .longInteger)
  | whitelist {options : List (Setting × Payload)} {all : Bool} {list : Payload}
      (hoptions : optionsOf .actionRule Setting.ofName? p = .ok options)
      (hall : readFlag "allowAll" false (given? .allowAll options) = .ok all)
      (hgiven : given? .whitelist options = some list) (hlist : UnreadableList list f)
  | blacklist {options : List (Setting × Payload)} {all : Bool} {white : Option FieldSet} {list : Payload}
      (hoptions : optionsOf .actionRule Setting.ofName? p = .ok options)
      (hall : readFlag "allowAll" false (given? .allowAll options) = .ok all)
      (hwhite : readFieldSet "whitelist" (given? .whitelist options) = .ok white)
      (hgiven : given? .blacklist options = some list) (hlist : UnreadableList list f)
  | mandatory {options : List (Setting × Payload)} {all : Bool} {white black : Option FieldSet} {list : Payload}
      (hoptions : optionsOf .actionRule Setting.ofName? p = .ok options)
      (hall : readFlag "allowAll" false (given? .allowAll options) = .ok all)
      (hwhite : readFieldSet "whitelist" (given? .whitelist options) = .ok white)
      (hblack : readFieldSet "blacklist" (given? .blacklist options) = .ok black)
      (hgiven : given? .mandatory options = some list) (hlist : UnreadableList list f)

/-- A field rule that cannot be read is a mapping. -/
theorem Unreadable.exists_mapping {p : Payload} {f : Fault} (h : Unreadable p f) :
    ∃ entries, p = .mapping entries := by
  cases h with
  | name hname =>
    obtain ⟨entries, hp, -⟩ := hname
    exact ⟨entries, hp⟩
  | allowAll hoptions | whitelist hoptions | blacklist hoptions | mandatory hoptions =>
    exact exists_mapping_of_optionsOf hoptions

/-- Reading a field rule ends in a fault exactly if the rule cannot be read. -/
theorem ofPayload_eq_fault_iff {p : Payload} {f : Fault} :
    ofPayload p = .error (.fault f) ↔ Unreadable p f := by
  have hdone : ∀ r : FieldRule, (pure r : Except (OrFault PolicyError) FieldRule) ≠ .error (.fault f) := nofun
  simp only [ofPayload, bind_eq_error_iff, optionsOf_eq_fault_iff, readFlag_eq_fault_iff, orRefuse_eq_ok_iff,
    readFieldSet_eq_fault_iff, hdone, and_false, exists_false, or_false]
  constructor
  · rintro (⟨hname, hfault⟩ | ⟨options, hoptions, ⟨hall, hfault⟩ | ⟨all, hall, h⟩⟩)
    · exact .name hname hfault
    · exact .allowAll hoptions hall hfault
    · rcases h with ⟨list, hgiven, h⟩ | ⟨white, hwhite, ⟨list, hgiven, h⟩ | ⟨black, hblack, list, hgiven, h⟩⟩
      · exact .whitelist hoptions hall hgiven h
      · exact .blacklist hoptions hall hwhite hgiven h
      · exact .mandatory hoptions hall hwhite hblack hgiven h
  · intro h
    cases h with
    | name hname hfault => exact .inl ⟨hname, hfault⟩
    | allowAll hoptions hall hfault => exact .inr ⟨_, hoptions, .inl ⟨hall, hfault⟩⟩
    | whitelist hoptions hall hgiven hlist =>
      exact .inr ⟨_, hoptions, .inr ⟨_, hall, .inl ⟨_, hgiven, hlist⟩⟩⟩
    | blacklist hoptions hall hwhite hgiven hlist =>
      exact .inr ⟨_, hoptions, .inr ⟨_, hall, .inr ⟨_, hwhite, .inl ⟨_, hgiven, hlist⟩⟩⟩⟩
    | mandatory hoptions hall hwhite hblack hgiven hlist =>
      exact .inr ⟨_, hoptions, .inr ⟨_, hall, .inr ⟨_, hwhite, .inr ⟨_, hblack, _, hgiven, hlist⟩⟩⟩⟩

end FieldRule

namespace Policy

/-! ## Rules and checks -/

/-- A rule that was made before is no mapping, so it is not read. -/
theorem ruleOf_eq_fault_iff {p : Payload} {f : Fault} :
    ruleOf p = .error (.fault f) ↔ FieldRule.Unreadable p f := by
  cases p with
  | rule r => exact iff_of_false nofun fun h => nomatch h.exists_mapping
  | _ => exact FieldRule.ofPayload_eq_fault_iff

/-- Reading the rules ends in a fault exactly if one of them does, and those before it are read. -/
theorem readRules_eq_fault_iff {entries : List (Payload × Payload)} {found : OrderedMap Action FieldRule}
    {f : Fault} : readRules entries found = .error (.fault f) ↔
      ∃ front e back, entries = front ++ e :: back ∧ ∃ rules a, readRules front found = .ok rules ∧
        Action.ofPayload? e.1 = some a ∧ a ∉ rules.keys ∧ FieldRule.Unreadable e.2 f := by
  induction entries generalizing found with
  | nil =>
    refine iff_of_false nofun ?_
    rintro ⟨front, e, back, h, -⟩
    simp at h
  | cons e rest ih =>
    obtain ⟨name, p⟩ := e
    rw [exists_split_cons_iff]
    cases hname : Action.ofPayload? name with
    | none => simp [readRules, hname]
    | some a =>
      by_cases hnew : a ∈ found.keys
      · simp [readRules, hname, hnew]
      · simp only [readRules, hname, hnew, if_false, bind_eq_error_iff, ruleOf_eq_fault_iff, Except.ok.injEq]
        refine or_congr ?_ ?_
        · constructor
          · exact fun h => ⟨found, a, rfl, rfl, hnew, h⟩
          · rintro ⟨_, _, -, -, -, h⟩
            exact h
        · constructor
          · rintro ⟨rule, hrule, h⟩
            obtain ⟨front, y, back, hsplit, rules, b, hfront, hb⟩ := ih.1 h
            exact ⟨front, y, back, hsplit, rules, b, by rw [hrule]; exact hfront, hb⟩
          · rintro ⟨front, y, back, hsplit, rules, b, hfront, hb⟩
            cases hrule : ruleOf p with
            | error e =>
              rw [hrule] at hfront
              cases hfront
            | ok rule =>
              rw [hrule] at hfront
              exact ⟨rule, rfl, ih.2 ⟨front, y, back, hsplit, rules, b, hfront, hb⟩⟩

/-- The guards of a field cannot be read. -/
inductive UnreadableGuards (field p : Payload) (f : Fault) : Prop where
  /-- They are given by what is no guard and has no elements. -/
  | elements (hguard : ∀ g, p ≠ .check g) (helements : p.elements? = none) (hfault : f = .notIterable p.type)
  /-- Not all elements are guards, and the field cannot be shown. -/
  | untold {items : List Payload} (hguard : ∀ g, p ≠ .check g) (helements : p.elements? = some items)
      (hitems : allGuards? items = none) (hlong : field.isShowable = false) (hfault : f = .longInteger)

/-- The guards of a field end in a fault exactly if they cannot be read. -/
theorem guardsOf_eq_fault_iff {field p : Payload} {f : Fault} :
    guardsOf field p = .error (.fault f) ↔ UnreadableGuards field p f := by
  unfold guardsOf
  split
  · refine iff_of_false nofun ?_
    rintro (⟨hguard, -⟩ | ⟨hguard, -⟩)
    · exact hguard _ rfl
    · exact hguard _ rfl
  · rename_i hguard
    cases helements : p.elements? with
    | none =>
      constructor
      · rintro ⟨⟩
        exact .elements hguard helements rfl
      · rintro (⟨-, -, rfl⟩ | ⟨-, hitems, -⟩)
        · rfl
        · cases helements.symm.trans hitems
    | some items =>
      dsimp only
      cases hguards : allGuards? items with
      | some gs =>
        refine iff_of_false nofun ?_
        rintro (⟨-, hnone, -⟩ | ⟨-, hitems, hnone, -⟩)
        · cases helements.symm.trans hnone
        · cases helements.symm.trans hitems
          cases hguards.symm.trans hnone
      | none =>
        show Except.error (told _) = _ ↔ _
        rw [Except.error.injEq, told_eq_fault_iff]
        constructor
        · rintro ⟨hlong, hfault⟩
          exact .untold hguard helements hguards hlong hfault
        · rintro (⟨-, hnone, -⟩ | ⟨-, -, -, hlong, hfault⟩)
          · cases helements.symm.trans hnone
          · exact ⟨hlong, hfault⟩

/-- Reading the checks ends in a fault exactly if the guards of one field cannot be read, and those before are. -/
theorem readChecks_eq_fault_iff {entries : List (Payload × Payload)} {f : Fault} :
    readChecks entries = .error (.fault f) ↔
      ∃ front e back, entries = front ++ e :: back ∧ ∃ read, readChecks front = .ok read ∧
        UnreadableGuards e.1 e.2 f := by
  induction entries with
  | nil =>
    refine iff_of_false nofun ?_
    rintro ⟨front, e, back, h, -⟩
    simp at h
  | cons e rest ih =>
    obtain ⟨field, p⟩ := e
    rw [exists_split_cons_iff]
    simp only [readChecks, bind_eq_error_iff, guardsOf_eq_fault_iff, ih]
    refine or_congr ?_ ?_
    · constructor
      · exact fun h => ⟨[], rfl, h⟩
      · rintro ⟨_, -, h⟩
        exact h
    · constructor
      · rintro ⟨gs, hgs, ⟨front, y, back, hsplit, read, hfront, h⟩ | ⟨_, -, h⟩⟩
        · exact ⟨front, y, back, hsplit, (field, gs) :: read, by rw [hgs, hfront]; rfl, h⟩
        · cases h
      · rintro ⟨front, y, back, hsplit, read, hread, h⟩
        cases hgs : guardsOf field p with
        | error e =>
          rw [hgs] at hread
          cases hread
        | ok gs =>
          cases hfront : readChecks front with
          | error e =>
            rw [hgs, hfront] at hread
            cases hread
          | ok before => exact ⟨gs, rfl, .inl ⟨front, y, back, hsplit, before, hfront, h⟩⟩

/-! ## Policies -/

/-- Rules end in a fault exactly if they are a mapping of which one does. -/
theorem rulesOf_eq_fault_iff {p : Payload} {f : Fault} : rulesOf p = .error (.fault f) ↔
    ∃ entries, p = .mapping entries ∧ readRules entries .empty = .error (.fault f) := by
  cases p with
  | mapping entries =>
    constructor
    · exact fun h => ⟨entries, rfl, h⟩
    · rintro ⟨_, ⟨⟩, h⟩
      exact h
  | _ =>
    refine iff_of_false nofun ?_
    rintro ⟨_, ⟨⟩, -⟩

/-- Checks end in a fault exactly if they are a mapping of which one does. -/
theorem allChecksOf_eq_fault_iff {given : Option Payload} {f : Fault} :
    allChecksOf given = .error (.fault f) ↔
      ∃ entries, given = some (.mapping entries) ∧ readChecks entries = .error (.fault f) := by
  unfold allChecksOf
  split
  · exact iff_of_false nofun nofun
  · exact iff_of_false nofun nofun
  · rename_i entries
    rw [bind_eq_error_iff]
    constructor
    · rintro (h | ⟨_, -, h⟩)
      · exact ⟨entries, rfl, h⟩
      · cases h
    · rintro ⟨_, ⟨⟩, h⟩
      exact .inl h
  · rename_i p hmapping
    refine iff_of_false nofun ?_
    rintro ⟨entries, ⟨⟩, -⟩
    exact hmapping _ rfl

/-- A policy cannot be read, though nothing is wrong with it by then that is asked for and can be told. -/
inductive Unreadable (raw : Payload) (f : Fault) : Prop where
  /-- The first name that stands for no option cannot be shown. -/
  | name (hname : UnshownName Setting.ofName? raw) (hfault : f = .longInteger)
  /-- A rule cannot be read. The options are known, and all rules before are in order. -/
  | rule {options : List (Setting × Payload)} {front back : List (Payload × Payload)} {name rule : Payload}
      {rules : OrderedMap Action FieldRule} {a : Action}
      (hoptions : optionsOf .policy Setting.ofName? raw = .ok options)
      (hentries : given? .actionRules options = some (.mapping (front ++ (name, rule) :: back)))
      (hfront : readRules front .empty = .ok rules) (hname : Action.ofPayload? name = some a)
      (hnew : a ∉ rules.keys) (hrule : FieldRule.Unreadable rule f)
  /-- What is given for a flag cannot be shown. The options are known, and the rules and the flags before are in
  order. -/
  | autoTimestamp {options : List (Setting × Payload)} {rules : OrderedMap Action FieldRule}
      (hoptions : optionsOf .policy Setting.ofName? raw = .ok options)
      (hrules : rulesOf ((given? .actionRules options).getD .null) = .ok rules)
      (htimed : Unshown (given? .autoTimestamp options)) (hfault : f = .longInteger)
  | autoVersion {options : List (Setting × Payload)} {rules : OrderedMap Action FieldRule} {timed : Bool}
      (hoptions : optionsOf .policy Setting.ofName? raw = .ok options)
      (hrules : rulesOf ((given? .actionRules options).getD .null) = .ok rules)
      (htimed : readFlag "autoTimestamp" false (given? .autoTimestamp options) = .ok timed)
      (hcounted : Unshown (given? .autoVersion options)) (hfault : f = .longInteger)
  | failOnError {options : List (Setting × Payload)} {rules : OrderedMap Action FieldRule} {timed counted : Bool}
      (hoptions : optionsOf .policy Setting.ofName? raw = .ok options)
      (hrules : rulesOf ((given? .actionRules options).getD .null) = .ok rules)
      (htimed : readFlag "autoTimestamp" false (given? .autoTimestamp options) = .ok timed)
      (hcounted : readFlag "autoVersion" false (given? .autoVersion options) = .ok counted)
      (hending : Unshown (given? .failOnError options)) (hfault : f = .longInteger)
  /-- The guards of a field cannot be read. The options are known, and the rules, the flags and all guards before
  are in order. -/
  | guards {options : List (Setting × Payload)} {rules : OrderedMap Action FieldRule}
      {timed counted ending : Bool} {front back : List (Payload × Payload)} {field p : Payload}
      {read : List (Payload × List (Guard Payload))}
      (hoptions : optionsOf .policy Setting.ofName? raw = .ok options)
      (hrules : rulesOf ((given? .actionRules options).getD .null) = .ok rules)
      (htimed : readFlag "autoTimestamp" false (given? .autoTimestamp options) = .ok timed)
      (hcounted : readFlag "autoVersion" false (given? .autoVersion options) = .ok counted)
      (hending : readFlag "failOnError" true (given? .failOnError options) = .ok ending)
      (hentries : given? .valueRules options = some (.mapping (front ++ (field, p) :: back)))
      (hfront : readChecks front = .ok read) (hguards : UnreadableGuards field p f)

/-- What cannot be read is a mapping. -/
theorem Unreadable.exists_mapping {raw : Payload} {f : Fault} (h : Unreadable raw f) :
    ∃ entries, raw = .mapping entries := by
  cases h with
  | name hname =>
    obtain ⟨entries, hraw, -⟩ := hname
    exact ⟨entries, hraw⟩
  | rule hoptions | autoTimestamp hoptions | autoVersion hoptions | failOnError hoptions | guards hoptions =>
    exact exists_mapping_of_optionsOf hoptions

/-- Reading a policy ends in a fault exactly if it cannot be read. -/
theorem ofPayload_eq_fault_iff {raw : Payload} {f : Fault} :
    ofPayload raw = .error (.fault f) ↔ Unreadable raw f := by
  have hdone : ∀ p : Policy Payload,
      (pure p : Except (OrFault PolicyError) (Policy Payload)) ≠ .error (.fault f) := nofun
  have hgiven : ∀ (given : Option Payload) entries,
      given.getD .null = .mapping entries ↔ given = some (.mapping entries) := by
    intro given entries
    cases given with
    | none => exact iff_of_false nofun nofun
    | some p => rw [Option.getD_some, Option.some.injEq]
  unfold ofPayload
  split
  · exact iff_of_false nofun fun h => nomatch h.exists_mapping
  · exact iff_of_false nofun fun h => nomatch h.exists_mapping
  · simp only [bind_eq_error_iff, optionsOf_eq_fault_iff, readFlag_eq_fault_iff, orRefuse_eq_ok_iff,
      rulesOf_eq_fault_iff, readRules_eq_fault_iff, allChecksOf_eq_fault_iff, readChecks_eq_fault_iff, hgiven,
      hdone, and_false, exists_false, or_false]
    constructor
    · rintro (⟨hname, hfault⟩ | ⟨options, hoptions, ⟨entries, hentries, hrule⟩ | ⟨rules, hrules, hflags⟩⟩)
      · exact .name hname hfault
      · obtain ⟨front, ⟨name, rule⟩, back, rfl, before, a, hfront, hname, hnew, hrule⟩ := hrule
        exact .rule hoptions hentries hfront hname hnew hrule
      · rcases hflags with ⟨htimed, hfault⟩ | ⟨timed, htimed, ⟨hcounted, hfault⟩ | ⟨counted, hcounted, hflags⟩⟩
        · exact .autoTimestamp hoptions hrules htimed hfault
        · exact .autoVersion hoptions hrules htimed hcounted hfault
        · rcases hflags with ⟨hending, hfault⟩ | ⟨ending, hending, entries, hentries, hguards⟩
          · exact .failOnError hoptions hrules htimed hcounted hending hfault
          · obtain ⟨front, ⟨field, p⟩, back, rfl, read, hfront, hguards⟩ := hguards
            exact .guards hoptions hrules htimed hcounted hending hentries hfront hguards
    · intro h
      cases h with
      | name hname hfault => exact .inl ⟨hname, hfault⟩
      | rule hoptions hentries hfront hname hnew hrule =>
        exact .inr ⟨_, hoptions, .inl ⟨_, hentries, _, (_, _), _, rfl, _, _, hfront, hname, hnew, hrule⟩⟩
      | autoTimestamp hoptions hrules htimed hfault =>
        exact .inr ⟨_, hoptions, .inr ⟨_, hrules, .inl ⟨htimed, hfault⟩⟩⟩
      | autoVersion hoptions hrules htimed hcounted hfault =>
        exact .inr ⟨_, hoptions, .inr ⟨_, hrules, .inr ⟨_, htimed, .inl ⟨hcounted, hfault⟩⟩⟩⟩
      | failOnError hoptions hrules htimed hcounted hending hfault =>
        exact .inr ⟨_, hoptions, .inr ⟨_, hrules, .inr ⟨_, htimed, .inr ⟨_, hcounted, .inl ⟨hending, hfault⟩⟩⟩⟩⟩
      | guards hoptions hrules htimed hcounted hending hentries hfront hguards =>
        exact .inr ⟨_, hoptions, .inr ⟨_, hrules, .inr ⟨_, htimed, .inr ⟨_, hcounted, .inr ⟨_, hending, _, hentries,
          _, (_, _), _, rfl, _, hfront, hguards⟩⟩⟩⟩⟩

/-- A policy cannot be read because of a member of a field list, because of a payload without elements, or because
of what cannot be shown. -/
theorem Unreadable.cause {raw : Payload} {f : Fault} (h : Unreadable raw f) :
    (∃ type, f = .unhashable type) ∨ f = .signallingMember ∨ f = .longInteger ∨ ∃ type, f = .notIterable type := by
  have hlong (hfault : f = .longInteger) : (∃ type, f = .unhashable type) ∨ f = .signallingMember ∨
      f = .longInteger ∨ ∃ type, f = .notIterable type := .inr (.inr (.inl hfault))
  cases h with
  | name _ hfault | autoTimestamp _ _ _ hfault | autoVersion _ _ _ _ hfault | failOnError _ _ _ _ _ hfault =>
    exact hlong hfault
  | rule _ _ _ _ _ hrule =>
    cases hrule with
    | name _ hfault | allowAll _ _ hfault => exact hlong hfault
    | whitelist _ _ _ hlist | blacklist _ _ _ _ hlist | mandatory _ _ _ _ _ hlist =>
      exact (Payload.cause_of_unreadableList hlist).imp_right (Or.imp_right .inl)
  | guards _ _ _ _ _ _ _ hguards =>
    cases hguards with
    | elements _ _ hfault => exact .inr (.inr (.inr ⟨_, hfault⟩))
    | untold _ _ _ _ hfault => exact hlong hfault

/-- Reading a policy gives a policy, or finds an error in it, exactly if the policy can be read. If it cannot, its
fault is one of four, and a call with it ends with this fault before a request is looked at and anything is
counted or logged. -/
theorem reads_or_refuses_iff (raw : Payload) :
    (((∃ p, ofPayload raw = .ok p) ∨ ∃ e, ofPayload raw = .error (.refused e)) ↔ ∀ f, ¬ Unreadable raw f) ∧
      ∀ f, Unreadable raw f → ofPayload raw = .error (.fault f) ∧
        ((∃ type, f = .unhashable type) ∨ f = .signallingMember ∨ f = .longInteger ∨
          ∃ type, f = .notIterable type) ∧
        ∀ table requests clock c, compileBatch table requests raw clock c = ⟨.error (.fault f), [], c⟩ := by
  constructor
  · constructor
    · rintro (⟨p, h⟩ | ⟨e, h⟩) f hf
      · exact nomatch h.symm.trans (ofPayload_eq_fault_iff.2 hf)
      · exact nomatch h.symm.trans (ofPayload_eq_fault_iff.2 hf)
    · intro h
      cases hread : ofPayload raw with
      | ok p => exact .inl ⟨p, rfl⟩
      | error ending =>
        cases ending with
        | refused e => exact .inr ⟨e, rfl⟩
        | fault f => exact absurd (ofPayload_eq_fault_iff.1 hread) (h f)
  · intro f h
    have hfault := ofPayload_eq_fault_iff.2 h
    refine ⟨hfault, h.cause, fun table requests clock c => ?_⟩
    have hread : Batch.read table requests raw clock = .error (.fault f) := by
      rw [Batch.read, hfault]
      rfl
    rw [compileBatch, hread]

/-! ## Three policies -/

/-- A rule with a list of names inside a list of names. -/
def nestedRule : Payload :=
  .mapping [(.text "whitelist", .list [.text "status", .list [.text "owner"]])]

/-- A policy with that rule, behind one that is in order. -/
def nestedNames : Payload :=
  .mapping [(.text "actionRules", .mapping
    [(.text "remove", .mapping [(.text "allowAll", .boolean true)]), (.text "assign", nestedRule)])]

/-- A policy with a number in place of the guards of a field. -/
def numberedGuards : Payload :=
  .mapping [(.text "actionRules", .mapping []),
    (.text "valueRules", .mapping [(.text "status", .int 5)])]

/-- A policy with something in place of a flag. -/
def countedBy (p : Payload) : Payload :=
  .mapping [(.text "actionRules", .mapping []), (.text "autoVersion", p)]

/-- If this cannot be shown, the policy cannot be read. -/
theorem ofPayload_countedBy {p : Payload} (h : p.isShowable = false) :
    ofPayload (countedBy p) = .error (.fault .longInteger) :=
  ofPayload_eq_fault_iff.2 (.autoVersion rfl rfl rfl ⟨p, rfl, h⟩ rfl)

/-- A call with the nested names ends with a fault, whatever else it passes. -/
theorem reads_or_refuses_nestedNames :
    Unreadable nestedNames (.unhashable ⟨"list", "list"⟩) ∧
      ofPayload nestedNames = .error (.fault (.unhashable ⟨"list", "list"⟩)) ∧
      ∀ table requests clock c, compileBatch table requests nestedNames clock c =
        ⟨.error (.fault (.unhashable ⟨"list", "list"⟩)), [], c⟩ := by
  have hrule : FieldRule.Unreadable nestedRule (.unhashable ⟨"list", "list"⟩) :=
    .whitelist rfl rfl rfl (.member rfl rfl)
  have hrules : given? Setting.actionRules [(.actionRules, .mapping
      ([(.text "remove", .mapping [(.text "allowAll", .boolean true)])] ++ [(.text "assign", nestedRule)]))] =
        some _ := rfl
  have hunreadable : Unreadable nestedNames (.unhashable ⟨"list", "list"⟩) :=
    .rule rfl hrules rfl rfl (by decide) hrule
  obtain ⟨hread, -, hcall⟩ := (reads_or_refuses_iff nestedNames).2 _ hunreadable
  exact ⟨hunreadable, hread, hcall⟩

/-- None of the policies is read, and in none an error is found. -/
theorem reads_or_refuses_neither :
    ¬ ((∃ p, ofPayload nestedNames = .ok p) ∨ ∃ e, ofPayload nestedNames = .error (.refused e)) ∧
      ¬ ((∃ p, ofPayload numberedGuards = .ok p) ∨ ∃ e, ofPayload numberedGuards = .error (.refused e)) ∧
      ¬ ((∃ p, ofPayload (countedBy (.int (powerOfTen 5000))) = .ok p) ∨
        ∃ e, ofPayload (countedBy (.int (powerOfTen 5000))) = .error (.refused e)) := by
  have hnested : ofPayload nestedNames = .error (.fault (.unhashable ⟨"list", "list"⟩)) := rfl
  have hnumbered : ofPayload numberedGuards = .error (.fault (.notIterable ⟨"int", "int"⟩)) := rfl
  have hlong : ofPayload (countedBy (.int (powerOfTen 5000))) = .error (.fault .longInteger) :=
    ofPayload_countedBy ((Payload.isShowable_number _).trans (Number.isShowable_powerOfTen (by decide)))
  rw [hnested, hnumbered, hlong]
  refine ⟨?_, ?_, ?_⟩
  · rintro (⟨p, ⟨⟩⟩ | ⟨e, ⟨⟩⟩)
  · rintro (⟨p, ⟨⟩⟩ | ⟨e, ⟨⟩⟩)
  · rintro (⟨p, ⟨⟩⟩ | ⟨e, ⟨⟩⟩)

end Policy

end Amend
