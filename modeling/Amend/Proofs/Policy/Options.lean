import Mathlib.Data.List.Pairwise
import Mathlib.Data.List.Perm.Basic
import Amend.Policy.Payload
import Amend.Proofs.Entries
import Amend.Proofs.Stages

/-!
# Mappings of options in another order

A policy and a field rule are both read as mappings of options. All names are looked at first, and each has to stand
for an option; then every option is read from the value that was given for it last, or from none (`ReadsAs`).

Most options have two names, and it is not asked whether an option has been given before. So it may depend on the order
of the entries what a mapping is read as, though only where two values for one option are not read alike. Both
directions are here: an unambiguous mapping is read the same in every order (`readsAs_congr`), and a mapping that is
read the same in every order is unambiguous, since every value comes last in some order
(`unambiguous_of_forall_perm`).
-/

namespace Amend

/-! ## Entries in another order -/

/-- The same names in another order, each with a value that is related to the one it had. -/
def EntriesReordered (R : Payload → Payload → Payload → Prop) (es fs : List (Payload × Payload)) : Prop :=
  ∃ mid, List.Forall₂ (fun e f => f.1 = e.1 ∧ R e.1 e.2 f.2) es mid ∧ mid.Perm fs

/-- A mapping with its entries in another order. Any payload is one of its orders itself. -/
inductive Payload.Reordered (R : Payload → Payload → Payload → Prop) : Payload → Payload → Prop where
  | same (p : Payload) : Reordered R p p
  | entries {es fs : List (Payload × Payload)} (h : EntriesReordered R es fs) :
      Reordered R (.mapping es) (.mapping fs)

namespace EntriesReordered

variable {R S : Payload → Payload → Payload → Prop} {es fs : List (Payload × Payload)}

/-- Entries with their own values may be permuted. -/
theorem of_perm (hR : ∀ name v, R name v v) (h : es.Perm fs) : EntriesReordered R es fs :=
  ⟨es, List.forall₂_same.2 fun e _ => ⟨rfl, hR e.1 e.2⟩, h⟩

/-- The value of a single entry may be replaced by one that is related to it. -/
theorem singleton {name v w : Payload} (h : R name v w) : EntriesReordered R [(name, v)] [(name, w)] :=
  ⟨[(name, w)], .cons ⟨rfl, h⟩ .nil, .refl _⟩

/-- An entry can be put behind the others, and its value replaced by one that is related to it. -/
theorem exists_append_singleton (hR : ∀ name v, R name v v) {e : Payload × Payload} (he : e ∈ es) :
    ∃ others, ∀ w, R e.1 e.2 w → EntriesReordered R es (others ++ [(e.1, w)]) := by
  obtain ⟨front, back, rfl⟩ := List.append_of_mem he
  refine ⟨front ++ back, fun w hw => ⟨front ++ (e.1, w) :: back, ?_, ?_⟩⟩
  · have hsame (xs : List (Payload × Payload)) :
        List.Forall₂ (fun e f => f.1 = e.1 ∧ R e.1 e.2 f.2) xs xs :=
      List.forall₂_same.2 fun e _ => ⟨rfl, hR e.1 e.2⟩
    exact List.rel_append (hsame front) (.cons ⟨rfl, hw⟩ (hsame back))
  · exact List.perm_middle.trans (List.perm_append_singleton _ (front ++ back)).symm

/-- An entry is found under its name in the other order. -/
theorem exists_of_mem_left (h : EntriesReordered R es fs) {e : Payload × Payload} (he : e ∈ es) :
    ∃ f ∈ fs, f.1 = e.1 ∧ R e.1 e.2 f.2 := by
  obtain ⟨mid, hmid, hperm⟩ := h
  obtain ⟨f, hf, hR⟩ := exists_of_mem_forall₂ hmid he
  exact ⟨f, hperm.mem_iff.1 hf, hR⟩

/-- An entry of the other order is found under its name. -/
theorem exists_of_mem_right (h : EntriesReordered R es fs) {f : Payload × Payload} (hf : f ∈ fs) :
    ∃ e ∈ es, f.1 = e.1 ∧ R e.1 e.2 f.2 := by
  obtain ⟨mid, hmid, hperm⟩ := h
  exact exists_of_mem_forall₂ hmid.flip (hperm.mem_iff.2 hf)

/-- Values that are related in one way may be related in another way too. -/
theorem imp (h : EntriesReordered R es fs) (himp : ∀ e ∈ es, ∀ w, R e.1 e.2 w → S e.1 e.2 w) :
    EntriesReordered S es fs := by
  obtain ⟨mid, hmid, hperm⟩ := h
  refine ⟨mid, ?_, hperm⟩
  clear hperm
  induction hmid with
  | nil => exact .nil
  | cons hef _ ih =>
    rw [List.forall_mem_cons] at himp
    exact .cons ⟨hef.1, himp.1 _ hef.2⟩ (ih himp.2)

/-- Where values are related both ways, the orders may be exchanged. -/
theorem symm (hR : ∀ name v w, R name v w → R name w v) (h : EntriesReordered R es fs) :
    EntriesReordered R fs es := by
  obtain ⟨mid, hmid, hperm⟩ := h
  have hback : List.Forall₂ (fun f e => e.1 = f.1 ∧ R f.1 f.2 e.2) mid es := by
    refine hmid.flip.imp ?_
    rintro f e ⟨hname, h⟩
    exact ⟨hname.symm, hname ▸ hR _ _ _ h⟩
  exact List.perm_comp_forall₂ hperm.symm hback

end EntriesReordered

/-! ## Mappings of options -/

section Options

variable {ω : Type} {ofName? : String → Option ω} {es fs : List (Payload × Payload)} {o : ω} {v w : Payload}

/-- The option that a payload names. -/
def named? (ofName? : String → Option ω) : Payload → Option ω
  | .text s => ofName? s
  | _ => none

/-- A value is given for an option, under one of its names. -/
def Gives (ofName? : String → Option ω) (es : List (Payload × Payload)) (o : ω) (v : Payload) : Prop :=
  ∃ name, (name, v) ∈ es ∧ named? ofName? name = some o

/-- The names of two entries do not stand for one option. -/
def NamesApart (ofName? : String → Option ω) (e f : Payload × Payload) : Prop :=
  ∀ o, named? ofName? e.1 = some o → named? ofName? f.1 ≠ some o

/-- Options are read one entry after another. -/
theorem readOptions_cons (part : PolicyPart) (e : Payload × Payload) (rest : List (Payload × Payload)) :
    readOptions part ofName? (e :: rest) = match named? ofName? e.1 with
      | some o => readOptions part ofName? rest >>= fun options => .ok ((o, e.2) :: options)
      | none => .error (.unknownOption part e.1) := by
  obtain ⟨name, p⟩ := e
  cases name with
  | text s =>
    rw [readOptions, named?]
    cases ofName? s <;> rfl
  | _ => rfl

/-- The options of a mapping are read if all names are known, and then come in the order of the entries. -/
theorem readOptions_eq_ok_iff {part : PolicyPart} {options : List (ω × Payload)} :
    readOptions part ofName? es = .ok options ↔ (∀ e ∈ es, ∃ o, named? ofName? e.1 = some o) ∧
      options = es.filterMap fun e => (named? ofName? e.1).map fun o => (o, e.2) := by
  induction es generalizing options with
  | nil =>
    rw [readOptions, Except.ok.injEq]
    exact ⟨fun h => ⟨nofun, h.symm⟩, fun h => h.2.symm⟩
  | cons e rest ih =>
    rw [readOptions_cons, List.forall_mem_cons]
    cases hname : named? ofName? e.1 with
    | none => exact iff_of_false nofun fun h => nomatch h.1.1
    | some o =>
      simp only [bind_eq_ok_iff, ih, Except.ok.injEq, List.filterMap_cons, hname, Option.map_some]
      constructor
      · rintro ⟨_, ⟨hknown, rfl⟩, rfl⟩
        exact ⟨⟨⟨o, rfl⟩, hknown⟩, rfl⟩
      · rintro ⟨⟨-, hknown⟩, rfl⟩
        exact ⟨_, ⟨hknown, rfl⟩, rfl⟩

/-- The first name of a mapping that stands for no option. -/
def firstUnknown? (ofName? : String → Option ω) (es : List (Payload × Payload)) : Option Payload :=
  (es.find? fun e => (named? ofName? e.1).isNone).map Prod.fst

/-- The options of a mapping are refused for the first name that stands for none of them. -/
theorem readOptions_eq_error_iff {part : PolicyPart} {e : PolicyError} :
    readOptions part ofName? es = .error e ↔
      ∃ name, firstUnknown? ofName? es = some name ∧ e = .unknownOption part name := by
  induction es with
  | nil => exact iff_of_false nofun nofun
  | cons x rest ih =>
    rw [readOptions_cons, firstUnknown?, List.find?_cons]
    cases hname : named? ofName? x.1 with
    | none =>
      constructor
      · rintro ⟨⟩
        exact ⟨_, rfl, rfl⟩
      · rintro ⟨_, ⟨⟩, rfl⟩
        rfl
    | some o => exact bind_ok_eq_error_iff.trans ih

variable [DecidableEq ω]

/-- The value that counts for an option: the last one given. -/
def lastGiven? (ofName? : String → Option ω) (es : List (Payload × Payload)) (o : ω) : Option Payload :=
  (es.reverse.find? fun e => named? ofName? e.1 = some o).map Prod.snd

/-- The payload of an option is the last value given for it. -/
theorem given?_of_readOptions {part : PolicyPart} {options : List (ω × Payload)}
    (h : readOptions part ofName? es = .ok options) (o : ω) : given? o options = lastGiven? ofName? es o := by
  obtain ⟨-, rfl⟩ := readOptions_eq_ok_iff.1 h
  rw [given?, lastGiven?, ← List.filterMap_reverse, List.find?_filterMap]
  have htest : (fun e : Payload × Payload => ((named? ofName? e.1).map fun o => (o, e.2)).any fun x => x.1 = o) =
      fun e => decide (named? ofName? e.1 = some o) := by
    funext e
    cases named? ofName? e.1 <;> simp
  rw [htest]
  cases hfound : es.reverse.find? fun e => named? ofName? e.1 = some o with
  | none => rfl
  | some e =>
    have hname : named? ofName? e.1 = some o := by simpa using List.find?_some hfound
    simp [hname]

/-- The value that counts for an option is one that is given. -/
theorem gives_of_lastGiven? (h : lastGiven? ofName? es o = some v) : Gives ofName? es o v := by
  obtain ⟨e, he, rfl⟩ := Option.map_eq_some_iff.1 h
  have hname : named? ofName? e.1 = some o := by simpa using List.find?_some he
  exact ⟨e.1, List.mem_reverse.1 (List.mem_of_find?_eq_some he), hname⟩

/-- Some value counts for an option if one is given. -/
theorem exists_lastGiven?_of_gives (h : Gives ofName? es o v) : ∃ w, lastGiven? ofName? es o = some w := by
  obtain ⟨name, hmem, hname⟩ := h
  rw [← Option.isSome_iff_exists, lastGiven?, Option.isSome_map, List.find?_isSome]
  exact ⟨(name, v), List.mem_reverse.2 hmem, decide_eq_true hname⟩

/-- The value of the last entry counts. -/
theorem lastGiven?_append_singleton {name : Payload} (hname : named? ofName? name = some o) :
    lastGiven? ofName? (es ++ [(name, v)]) o = some v := by
  simp [lastGiven?, hname]

variable {Content : ω → Type} {read : (o : ω) → Option Payload → Option (Content o)} {m : (o : ω) → Content o}

/-- A mapping of options is read as one thing for each option: all names are known, and the value that counts for an
option, or that none is given, is read as this thing. -/
structure ReadsAs (ofName? : String → Option ω) (read : (o : ω) → Option Payload → Option (Content o))
    (es : List (Payload × Payload)) (m : (o : ω) → Content o) : Prop where
  known : ∀ e ∈ es, ∃ o, named? ofName? e.1 = some o
  content : ∀ o, read o (lastGiven? ofName? es o) = some (m o)

/-- Two values given for one option are read alike. -/
def Unambiguous (ofName? : String → Option ω) (read : (o : ω) → Option Payload → Option (Content o))
    (es : List (Payload × Payload)) : Prop :=
  ∀ o v w, Gives ofName? es o v → Gives ofName? es o w → read o (some v) = read o (some w)

omit [DecidableEq ω] in
/-- A mapping is unambiguous if all values given for an option are read as the same thing. -/
theorem unambiguous_of_content (m : (o : ω) → Content o)
    (h : ∀ o v, Gives ofName? es o v → read o (some v) = some (m o)) : Unambiguous ofName? read es :=
  fun o v w hv hw => (h o v hv).trans (h o w hw).symm

omit [DecidableEq ω] in
/-- A mapping that gives no option twice is unambiguous. -/
theorem unambiguous_of_pairwise (h : es.Pairwise (NamesApart ofName?)) : Unambiguous ofName? read es := by
  have : Std.Symm (NamesApart ofName?) := ⟨fun e f hef o hf he => hef o he hf⟩
  rintro o v w ⟨name, hv, hname⟩ ⟨other, hw, hother⟩
  by_cases heq : (name, v) = (other, w)
  · obtain ⟨-, rfl⟩ := Prod.mk.inj heq
    rfl
  · exact absurd hother (h.forall hv hw heq o hname)

/-- An unambiguous mapping is read the same in another order, if values that take the place of others are read like
them. -/
theorem readsAs_congr {R : Payload → Payload → Payload → Prop} (horder : EntriesReordered R es fs)
    (hunambiguous : Unambiguous ofName? read es)
    (halike : ∀ e ∈ es, ∀ o w, named? ofName? e.1 = some o → R e.1 e.2 w → read o (some e.2) = read o (some w)) :
    ReadsAs ofName? read es m ↔ ReadsAs ofName? read fs m := by
  have hknown : (∀ e ∈ es, ∃ o, named? ofName? e.1 = some o) ↔ ∀ f ∈ fs, ∃ o, named? ofName? f.1 = some o := by
    constructor
    · intro h f hf
      obtain ⟨e, he, hname, -⟩ := horder.exists_of_mem_right hf
      exact hname ▸ h e he
    · intro h e he
      obtain ⟨f, hf, hname, -⟩ := horder.exists_of_mem_left he
      exact hname ▸ h f hf
  have hread (o : ω) : read o (lastGiven? ofName? es o) = read o (lastGiven? ofName? fs o) := by
    cases hfs : lastGiven? ofName? fs o with
    | none =>
      cases hes : lastGiven? ofName? es o with
      | none => rfl
      | some v =>
        obtain ⟨name, hmem, hname⟩ := gives_of_lastGiven? hes
        obtain ⟨⟨_, w⟩, hf, rfl, -⟩ := horder.exists_of_mem_left hmem
        obtain ⟨w, hw⟩ := exists_lastGiven?_of_gives ⟨_, hf, hname⟩
        cases hfs.symm.trans hw
    | some w =>
      obtain ⟨name, hmem, hname⟩ := gives_of_lastGiven? hfs
      obtain ⟨e, he, rfl, hR⟩ := horder.exists_of_mem_right hmem
      have hgives : Gives ofName? es o e.2 := ⟨e.1, he, hname⟩
      obtain ⟨v, hv⟩ := exists_lastGiven?_of_gives hgives
      rw [hv, hunambiguous o v e.2 (gives_of_lastGiven? hv) hgives, halike e he o w hname hR]
  exact ⟨fun h => ⟨hknown.1 h.known, fun o => hread o ▸ h.content o⟩,
    fun h => ⟨hknown.2 h.known, fun o => (hread o).symm ▸ h.content o⟩⟩

/-- A mapping that is read as the same in every order of its entries is unambiguous. -/
theorem unambiguous_of_forall_perm (h : ∀ fs, es.Perm fs → ReadsAs ofName? read fs m) :
    Unambiguous ofName? read es := by
  refine unambiguous_of_content m ?_
  rintro o v ⟨name, hmem, hname⟩
  obtain ⟨front, back, rfl⟩ := List.append_of_mem hmem
  have hlast : (front ++ (name, v) :: back).Perm (front ++ back ++ [(name, v)]) :=
    List.perm_middle.trans (List.perm_append_singleton _ _).symm
  rw [← lastGiven?_append_singleton hname]
  exact (h _ hlast).content o

end Options

end Amend
