import Amend.Payload.Equality
import Amend.Proofs.Number
import Amend.Proofs.Number.Order
import Amend.Proofs.Stages
import Amend.Proofs.Value.Position
import Amend.Value.Payload

/-!
# Equality with values

A payload that can be classified is compared with the plain data of a value. The comparison always comes to an answer,
and the answer is yes exactly if the payload is plain data itself and counts as the value at every position
(`Payload.equals_toPayload`).

A part counts as another one if it is the same but for what is in it; numbers count as one another if they stand at
one place of the number line, whatever their kinds, and truth values count as the numbers one and zero
(`Value.CountsAs`). This is where equality and the kinds of values part.
-/

namespace Amend

/-! ## Questions -/

/-- A question has an answer, and the answer is yes exactly if something holds. -/
def Answers (x : Except Fault Bool) (p : Prop) : Prop :=
  ∃ b, x = .ok b ∧ (b = true ↔ p)

section Answers

variable {x y : Except Fault Bool} {p q : Prop}

/-- A question that is answered with no. -/
theorem answers_no (h : ¬ p) : Answers (.ok false) p :=
  ⟨false, rfl, iff_of_false Bool.false_ne_true h⟩

/-- A question that is answered by a truth value. -/
theorem answers_of_iff {b : Bool} (h : b = true ↔ p) : Answers (.ok b) p :=
  ⟨b, rfl, h⟩

/-- What holds may be put in other words. -/
theorem Answers.congr (h : Answers x p) (hpq : p ↔ q) : Answers x q := by
  obtain ⟨b, hx, hb⟩ := h
  exact ⟨b, hx, hb.trans hpq⟩

/-- A second question is asked if the first one is answered with yes. -/
theorem Answers.and (hx : Answers x p) (hy : Answers y q) :
    Answers (x >>= fun b => if b then y else .ok false) (p ∧ q) := by
  obtain ⟨b, rfl, hb⟩ := hx
  cases b with
  | true => exact hy.congr (and_iff_right (hb.1 rfl)).symm
  | false => exact answers_no fun h => Bool.false_ne_true (hb.2 h.1)

/-- A question is asked of one thing after another until it is answered with yes. -/
theorem answers_anyM {α : Type} {f : α → Except Fault Bool} {P : α → Prop} {xs : List α}
    (h : ∀ x ∈ xs, Answers (f x) (P x)) : Answers (xs.anyM f) (∃ x ∈ xs, P x) := by
  induction xs with
  | nil => exact answers_no nofun
  | cons x rest ih =>
    rw [List.forall_mem_cons] at h
    obtain ⟨b, hx, hb⟩ := h.1
    rw [List.anyM_cons, hx]
    cases b with
    | true => exact ⟨true, rfl, iff_of_true rfl ⟨x, List.mem_cons_self, hb.1 rfl⟩⟩
    | false =>
      refine (ih h.2).congr ?_
      rw [List.exists_mem_cons_iff, or_iff_right fun hx => Bool.false_ne_true (hb.2 hx)]

end Answers

/-! ## What counts as what -/

/-- Numbers that stand somewhere have one value if they stand at one place. -/
theorem Number.same_iff_extended? {m n : Number} (hm : m.exact.isNaN = false) (hn : n.exact.isNaN = false) :
    m.same n = true ↔ m.extended? = n.extended? := by
  obtain ⟨x, hx⟩ := Number.exists_extended? hm
  obtain ⟨y, hy⟩ := Number.exists_extended? hn
  rw [Number.same, Decimal.compare?_eq ((m.extended?_exact).trans hx) ((n.extended?_exact).trans hy), hx, hy,
    beq_iff_eq, Option.some_inj, Option.some_inj, cmp_eq_eq_iff]

namespace Value

/-- A value counts as another one in comparisons, as far as the two themselves go and whatever is in them. -/
inductive CountsAs : Value → Value → Prop
  | null : CountsAs .null .null
  | text (s : String) : CountsAs (.text s) (.text s)
  | sequence (xs ys : List Value) : CountsAs (.sequence xs) (.sequence ys)
  | mapping (es fs : List (String × Value)) : CountsAs (.mapping es) (.mapping fs)
  | number {v w : Value} {m n : Number} (hv : v.toPayload.number? = some m) (hw : w.toPayload.number? = some n)
      (same : m.extended? = n.extended?) : CountsAs v w

/-- What does not count as a number counts as nothing but what is of its kind. -/
theorem CountsAs.kind_eq {v w : Value} (h : CountsAs v w) (hv : v.toPayload.number? = none) : v.kind = w.kind := by
  cases h with
  | number hm => cases hv.symm.trans hm
  | _ => rfl

/-- No plain data is a value. -/
theorem value_ne_toPayload (u v : Value) : Payload.value u ≠ v.toPayload := by
  cases v <;> nofun

/-- No plain data is a tuple. -/
theorem tuple_ne_toPayload (items : List Payload) (v : Value) : Payload.tuple items ≠ v.toPayload := by
  cases v <;> nofun

/-- The plain data of a mapping has as many entries as the mapping. -/
theorem length_entryPayloads (es : List (String × Value)) : (entryPayloads es).length = es.length := by
  induction es with
  | nil => rfl
  | cons e rest ih => rw [entryPayloads, List.length_cons, List.length_cons, ih]

/-- The plain data of a sequence has as many items as the sequence. -/
theorem length_itemPayloads (vs : List Value) : (itemPayloads vs).length = vs.length := by
  induction vs with
  | nil => rfl
  | cons v rest ih => rw [itemPayloads, List.length_cons, List.length_cons, ih]

/-- What counts as a number has no parts. -/
theorem step?_eq_none_of_number? {v : Value} {n : Number} (h : v.toPayload.number? = some n) (s : Step) :
    v.step? s = none := by
  cases v with
  | sequence items => cases h
  | mapping entries => cases h
  | _ => rfl

/-- The number that a value counts as stands somewhere. -/
theorem isNaN_of_number? {v : Value} {n : Number} (h : v.toPayload.number? = some n) : n.exact.isNaN = false := by
  cases v with
  | boolean b =>
    cases h
    rfl
  | number m =>
    cases h
    exact Number.isNaN_exact_of_storable m.storable
  | _ => cases h

end Value

namespace Payload

/-! ## Numbers -/

/-- Whether numbers that stand somewhere are equal is answered by their places. -/
theorem answers_sameNumber {m n : Number} (hm : m.exact.isNaN = false) (hn : n.exact.isNaN = false) :
    Answers (sameNumber m n) (m.extended? = n.extended?) := by
  have hquiet {k : Number} (hk : k.exact.isNaN = false) : k.exact.isSignalling = false := by
    cases hd : k.exact with
    | nan negative signalling payload mark =>
      rw [hd] at hk
      cases hk
    | _ => rfl
  rw [sameNumber, Number.signals, hquiet hm, hquiet hn]
  split
  · rename_i heq
    exact answers_of_iff (iff_of_true rfl (congrArg Number.extended? heq))
  · exact answers_of_iff (Number.same_iff_extended? hm hn)

/-- What counts as a number is equal to what counts as a number at the same place, and to nothing else. -/
theorem answers_equals_number {w : Value} {m : Number} (hm : w.toPayload.number? = some m) (v : Value) :
    Answers (equals w.toPayload v.toPayload) (Value.Everywhere Value.CountsAs w v) := by
  have hequals : equals w.toPayload v.toPayload = v.toPayload.number?.elim (.ok false) (sameNumber m) := by
    cases w with
    | boolean b | number k =>
      cases hm
      rw [Value.toPayload, equals]
      cases v.toPayload.number? with
      | none => rfl
      | some n => rfl
    | _ => cases hm
  rw [hequals]
  cases hn : v.toPayload.number? with
  | some n =>
    refine (answers_sameNumber (Value.isNaN_of_number? hm) (Value.isNaN_of_number? hn)).congr ?_
    constructor
    · exact fun hsame => Value.everywhere_of_step?_eq_none (.number hm hn hsame)
        (Value.step?_eq_none_of_number? hm) (Value.step?_eq_none_of_number? hn)
    · intro h
      cases (Value.everywhere_iff.1 h).1 with
      | number hm' hn' hsame =>
        cases hm.symm.trans hm'
        cases hn.symm.trans hn'
        exact hsame
      | _ => cases hm
  | none =>
    refine answers_no fun h => ?_
    cases (Value.everywhere_iff.1 h).1 with
    | number _ hn' _ => cases hn.symm.trans hn'
    | _ => cases hm

/-! ## Containers -/

/-- In the plain data of a mapping a name finds what it finds in the mapping. -/
theorem findM?_entryPayloads (name : String) (fs : List (String × Value)) :
    (Value.entryPayloads fs).findM? (fun f => equals (.text name) f.1) =
      .ok ((OrderedMap.find name fs).map fun y => (.text name, y.toPayload)) := by
  induction fs with
  | nil => rfl
  | cons f rest ih =>
    obtain ⟨key, y⟩ := f
    have hequals : equals (.text name) (.text key) = .ok (name == key) := by simp [equals, sameAtom]
    rw [Value.entryPayloads, List.findM?, hequals, OrderedMap.find]
    by_cases hkey : key = name
    · rw [if_pos hkey, hkey, beq_self_eq_true]
      rfl
    · rw [if_neg hkey, beq_eq_false_iff_ne.2 (Ne.symm hkey)]
      exact ih

/-- What is no number is not equal to what is of another kind. -/
theorem answers_equals_otherKind {q : Payload} {w v : Value} (hequals : equals q v.toPayload = .ok false)
    (hw : w.toPayload.number? = none) (hkind : w.kind ≠ v.kind) :
    Answers (equals q v.toPayload) (q = w.toPayload ∧ Value.Everywhere Value.CountsAs w v) := by
  rw [hequals]
  exact answers_no fun h => hkind ((Value.everywhere_iff.1 h.2).1.kind_eq hw)

mutual

/-- A payload that can be classified is equal to the plain data of a value if it is plain data itself, of a value that
counts as the other one at every position. -/
theorem equals_toPayload : ∀ {q : Payload} {w v : Value}, Value.ofPayload q = .ok w → w.NamesDistinct →
    v.NamesDistinct →
      Answers (equals q v.toPayload) (q = w.toPayload ∧ Value.Everywhere Value.CountsAs w v)
  | .null, _, v, h, _, _ => by
    cases h
    cases v with
    | null =>
      have hequals : equals .null Value.null.toPayload = .ok true := by simp [equals, sameAtom, Value.toPayload]
      rw [hequals]
      exact answers_of_iff (iff_of_true rfl
        ⟨rfl, Value.everywhere_of_step?_eq_none .null (fun _ => rfl) fun _ => rfl⟩)
    | _ => exact answers_equals_otherKind (by simp [equals, sameAtom, Value.toPayload]) rfl nofun
  | .boolean b, _, v, h, _, _ => by
    cases h
    exact (answers_equals_number (w := .boolean b) rfl v).congr (and_iff_right rfl).symm
  | .number n, w, v, h, _, _ => by
    rw [Value.ofPayload, Value.ofNumber] at h
    split at h
    · rename_i hn
      cases h
      exact (answers_equals_number (w := .number ⟨n, hn⟩) rfl v).congr (and_iff_right rfl).symm
    · split at h <;> cases h
  | .text s, _, v, h, _, _ => by
    cases h
    cases v with
    | text t =>
      have hequals : equals (.text s) (Value.text t).toPayload = .ok (s == t) := by
        simp [equals, sameAtom, Value.toPayload]
      rw [hequals]
      refine answers_of_iff (beq_iff_eq.trans ⟨?_, fun h => ?_⟩)
      · rintro rfl
        exact ⟨rfl, Value.everywhere_of_step?_eq_none (.text s) (fun _ => rfl) fun _ => rfl⟩
      · cases (Value.everywhere_iff.1 h.2).1 with
        | text => rfl
        | number hm => cases hm
    | _ => exact answers_equals_otherKind (by simp [equals, sameAtom, Value.toPayload]) rfl nofun
  | .value u, _, v, _, _, _ => by
    -- what has been made before is no data, and equal to none
    have hequals : equals (.value u) v.toPayload = .ok false := by
      cases v <;> simp [equals, sameAtom, Value.toPayload]
    rw [hequals]
    exact answers_no fun ⟨hplain, _⟩ => Value.value_ne_toPayload u _ hplain
  | .tuple items, w, v, _, _, _ => by
    -- plain data has lists only
    have hequals : equals (.tuple items) v.toPayload = .ok false := by
      cases v <;> simp [equals, sameAtom, Value.toPayload]
    rw [hequals]
    exact answers_no fun ⟨hplain, _⟩ => Value.tuple_ne_toPayload items w hplain
  | .list items, w, v, h, hw, hv => by
    rw [Value.ofPayload] at h
    obtain ⟨ws, hws, ⟨⟩⟩ := bind_eq_ok_iff.1 h
    cases v with
    | sequence vs =>
      rw [Value.toPayload, Value.toPayload, equals, Value.length_itemPayloads,
        Value.everywhere_sequence_iff (.sequence ws vs), list.injEq]
      split
      · rename_i hlength
        exact equalItems_itemPayloads hws hw.item hv.item hlength
      · rename_i hlength
        refine answers_no ?_
        rintro ⟨rfl, hitems⟩
        exact hlength ((Value.length_itemPayloads ws).trans hitems.length_eq)
    | _ => exact answers_equals_otherKind (by simp [equals, sameAtom, Value.toPayload]) rfl nofun
  | .mapping entries, w, v, h, hw, hv => by
    rw [Value.ofPayload] at h
    obtain ⟨es, hes, ⟨⟩⟩ := bind_eq_ok_iff.1 h
    cases v with
    | mapping fs =>
      rw [Value.toPayload, Value.toPayload, equals, Value.length_entryPayloads,
        Value.everywhere_mapping_iff (.mapping es fs) hw.nodup hv.nodup, mapping.injEq]
      split
      · rename_i hlength
        refine (equalEntries_entryPayloads hes hw.entry hv).congr (and_congr_right ?_)
        rintro rfl
        rw [Value.length_entryPayloads] at hlength
        exact (and_iff_right hlength).symm
      · rename_i hlength
        refine answers_no ?_
        rintro ⟨rfl, hcount, -⟩
        exact hlength ((Value.length_entryPayloads es).trans hcount)
    | _ => exact answers_equals_otherKind (by simp [equals, sameAtom, Value.toPayload]) rfl nofun
  | .bytes _, _, _, h, _, _ | .set _, _, _, h, _, _ | .series .., _, _, h, _, _ | .pattern _, _, _, h, _, _
  | .check _, _, _, h, _, _ | .key _, _, _, h, _, _ | .rule _, _, _, h, _, _ | .request _, _, _, h, _, _
  | .policy _, _, _, h, _, _ | .object _, _, _, h, _, _ => by cases h

/-- Items are equal to the plain data of as many values if they are plain data of values that count as these. -/
theorem equalItems_itemPayloads : ∀ {items : List Payload} {ws vs : List Value}, Value.ofItems items = .ok ws →
    (∀ w ∈ ws, w.NamesDistinct) → (∀ v ∈ vs, v.NamesDistinct) → items.length = vs.length →
      Answers (equalItems items (Value.itemPayloads vs))
        (items = Value.itemPayloads ws ∧ List.Forall₂ (Value.Everywhere Value.CountsAs) ws vs)
  | [], _, vs, h, _, _, hlength => by
    cases h
    obtain rfl : vs = [] := List.eq_nil_of_length_eq_zero hlength.symm
    have hequals : equalItems [] (Value.itemPayloads []) = .ok true := by simp [equalItems]
    rw [hequals]
    exact answers_of_iff (iff_of_true rfl ⟨rfl, .nil⟩)
  | q :: rest, ws, [], h, hws, hvs, hlength => by cases hlength
  | q :: rest, ws, v :: vs, h, hws, hvs, hlength => by
    rw [Value.ofItems] at h
    obtain ⟨w, hw, h⟩ := bind_eq_ok_iff.1 h
    obtain ⟨ws, hrest, ⟨⟩⟩ := bind_eq_ok_iff.1 h
    rw [List.forall_mem_cons] at hws hvs
    rw [Value.itemPayloads, equalItems]
    refine ((equals_toPayload hw hws.1 hvs.1).and
      (equalItems_itemPayloads hrest hws.2 hvs.2 (Nat.succ.inj hlength))).congr ?_
    rw [Value.itemPayloads, List.forall₂_cons, List.cons.injEq]
    tauto

/-- Entries are equal to entries of the plain data of a mapping if they are plain data of values under texts, each of
which finds in the mapping what its value counts as. -/
theorem equalEntries_entryPayloads : ∀ {entries : List (Payload × Payload)} {es fs : List (String × Value)},
    Value.ofEntries entries = .ok es → (∀ e ∈ es, e.2.NamesDistinct) → (Value.mapping fs).NamesDistinct →
      Answers (equalEntries entries (Value.entryPayloads fs))
        (entries = Value.entryPayloads es ∧
          ∀ e ∈ es, ∃ y, OrderedMap.find e.1 fs = some y ∧ Value.Everywhere Value.CountsAs e.2 y)
  | [], _, fs, h, _, _ => by
    cases h
    have hequals : equalEntries [] (Value.entryPayloads fs) = .ok true := by simp [equalEntries]
    rw [hequals]
    exact answers_of_iff (iff_of_true rfl ⟨rfl, nofun⟩)
  | (name, q) :: rest, es, fs, h, hes, hfs => by
    cases name with
    | text s =>
      rw [Value.ofEntries] at h
      obtain ⟨w, hw, h⟩ := bind_eq_ok_iff.1 h
      obtain ⟨es, hrest, ⟨⟩⟩ := bind_eq_ok_iff.1 h
      rw [List.forall_mem_cons] at hes
      rw [equalEntries, findM?_entryPayloads]
      cases hfind : OrderedMap.find s fs with
      | none =>
        refine answers_no ?_
        rintro ⟨-, hall⟩
        obtain ⟨y, hy, -⟩ := hall _ List.mem_cons_self
        cases hfind.symm.trans hy
      | some y =>
        have hy : y.NamesDistinct := hfs.step (s := .entry s) hfind
        refine ((equals_toPayload hw hes.1 hy).and (equalEntries_entryPayloads hrest hes.2 hfs)).congr ?_
        have hfirst : (∃ z, OrderedMap.find s fs = some z ∧ Value.Everywhere Value.CountsAs w z) ↔
            Value.Everywhere Value.CountsAs w y := by simp [hfind]
        rw [Value.entryPayloads, List.forall_mem_cons, List.cons.injEq, Prod.mk.injEq, hfirst]
        tauto
    | _ => cases h

end

end Payload

end Amend
