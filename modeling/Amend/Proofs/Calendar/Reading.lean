import Mathlib.Data.List.Forall2
import Amend.Calendar.Reading

/-!
# What date patterns read

A piece of a date pattern takes characters from the front of a text, in one of several ways. What it takes and what it
leaves make up the text (`append_of_mem_ways`), so that a reading of a whole pattern cuts the text into parts, one for
each piece (`reads_of_firstReading`).

In the other direction, the reading is known if the best way of each piece is (`Best`), because then nothing has to be
taken back (`firstReading_of_best`).
-/

namespace Amend

/-! ## Letters -/

namespace Text

/-- A character with a certain small letter is this letter or one of its capitals. -/
theorem eq_or_mem_capitals {m n : Nat} (h : small n = m) (hm : m ≠ 0) : n = m ∨ n ∈ capitals m := by
  rw [small] at h
  generalize hsearch : capitalRuns.findSome? _ = search at h
  cases search with
  | none => exact .inl h
  | some found =>
    obtain rfl : found = m := h
    obtain ⟨⟨first, last, step, offset⟩, hmem, hrun⟩ := List.exists_of_findSome?_eq_some hsearch
    dsimp only at hrun
    split at hrun
    · next hbounds =>
      refine .inr (List.mem_filterMap.2 ⟨_, hmem, ?_⟩)
      have hback : ((found : Int) - offset).toNat = n := by
        have hsmall := Option.some.inj hrun
        omega
      simp only [hback, if_pos hbounds]
    · cases hrun

end Text

namespace DatePattern

/-- A letter of which there is one form only is matched by this form and its capitals. -/
theorem eq_or_mem_capitals_of_anyCase {expected c : Char} {n : Nat} (h : anyCase expected c = true)
    (hsmall : Text.small expected.toNat = n) (hforms : Text.forms n = [n]) (hn : n ≠ 0) :
    c.toNat = n ∨ c.toNat ∈ Text.capitals n := by
  refine Text.eq_or_mem_capitals ?_ hn
  rw [anyCase, Text.sameLetter, hsmall, hforms, Bool.or_eq_true, beq_iff_eq, List.contains_iff_mem,
    List.mem_singleton] at h
  exact h.elim Eq.symm id

/-- The letter between a day and a time of day may be small. -/
theorem anyCase_T {c : Char} (h : anyCase 'T' c = true) : c = 'T' ∨ c = 't' := by
  have hletter := eq_or_mem_capitals_of_anyCase (n := 't'.toNat) h (by decide +kernel) (by decide) (by decide)
  have hcapitals : Text.capitals 't'.toNat = ['T'.toNat] := by decide +kernel
  rw [hcapitals, List.mem_singleton, Char.toNat_inj, Char.toNat_inj] at hletter
  exact hletter.symm

/-- The marks in dates and times of day stand for themselves. -/
theorem anyCase_mark {mark c : Char} (hmark : mark ∈ ['-', ':', '.']) (h : anyCase mark c = true) : c = mark := by
  have hplain : Text.small mark.toNat = mark.toNat ∧ Text.forms mark.toNat = [mark.toNat] ∧
      mark.toNat ≠ 0 ∧ Text.capitals mark.toNat = [] := by
    simp only [List.mem_cons, List.not_mem_nil, or_false] at hmark
    rcases hmark with rfl | rfl | rfl <;> decide +kernel
  obtain ⟨hsmall, hforms, hn, hcapitals⟩ := hplain
  have hletter := eq_or_mem_capitals_of_anyCase h hsmall hforms hn
  rw [hcapitals] at hletter
  exact Char.toNat_inj.1 (hletter.resolve_right List.not_mem_nil)

/-! ## Ways to take characters -/

variable {test : Char → Bool} {tests : List (Char → Bool)} {options : List (List (Char → Bool))} {t : Taken}
  {cs taken rest : List Char}

/-- Characters that pass tests, each its own. -/
def Fits (tests : List (Char → Bool)) (cs : List Char) : Prop :=
  List.Forall₂ (fun test c => test c = true) tests cs

/-- What is taken by tests passes them, and stands in front of what is left. -/
theorem take?_eq_some_iff : take? tests cs = some t ↔ Fits tests t.1 ∧ cs = t.1 ++ t.2 := by
  -- by induction on the tests, for all texts and whatever is taken from them
  obtain ⟨taken, rest⟩ := t
  induction tests generalizing cs taken with
  | nil =>
    simp only [take?, Fits, Option.some.injEq, Prod.mk.injEq, List.forall₂_nil_left_iff]
    constructor
    · rintro ⟨rfl, rfl⟩
      exact ⟨rfl, rfl⟩
    · rintro ⟨rfl, rfl⟩
      exact ⟨rfl, rfl⟩
  | cons test tests ih =>
    cases cs with
    | nil =>
      refine iff_of_false nofun ?_
      rintro ⟨hfits, hnil⟩
      obtain ⟨rfl, -⟩ := List.append_eq_nil_iff.1 hnil.symm
      cases hfits
    | cons c cs =>
      simp only [take?]
      constructor
      · intro h
        split at h
        · next hc =>
          obtain ⟨⟨taken', rest'⟩, hrest, htaken⟩ := Option.map_eq_some_iff.1 h
          obtain ⟨rfl, rfl⟩ := Prod.mk.inj htaken
          obtain ⟨hfits, rfl⟩ := (ih taken').1 hrest
          exact ⟨.cons hc hfits, rfl⟩
        · cases h
      · rintro ⟨hfits, happend⟩
        obtain ⟨_, taken', hc, hrest, rfl⟩ := List.forall₂_cons_left_iff.1 hfits
        obtain ⟨rfl, rfl⟩ := List.cons.inj happend
        rw [if_pos hc]
        exact congrArg _ ((ih taken').2 ⟨hrest, rfl⟩)

/-- Characters behind those that the tests are for do not matter. -/
theorem take?_append (h : tests.length ≤ cs.length) :
    take? tests (cs ++ rest) = (take? tests cs).map fun t => (t.1, t.2 ++ rest) := by
  induction tests generalizing cs with
  | nil => rfl
  | cons test tests ih =>
    obtain ⟨c, cs, rfl⟩ := List.exists_cons_of_length_pos (Nat.lt_of_lt_of_le (Nat.succ_pos _) h)
    rw [List.cons_append, take?, take?]
    split
    · rw [ih (Nat.le_of_succ_le_succ h), Option.map_map, Option.map_map]
      rfl
    · rfl

/-- What is taken by one of some lists of tests. -/
theorem mem_choices_iff : t ∈ choices options cs ↔ ∃ tests ∈ options, Fits tests t.1 ∧ cs = t.1 ++ t.2 := by
  simp only [choices, List.mem_filterMap, take?_eq_some_iff]

/-- What is taken as a run of characters. -/
theorem of_mem_runs {most : Nat} (h : t ∈ runs test most cs) :
    cs = t.1 ++ t.2 ∧ t.1 ≠ [] ∧ t.1.length ≤ most ∧ ∀ c ∈ t.1, test c = true := by
  obtain ⟨n, hn, rfl⟩ := List.mem_map.1 h
  have hn := List.mem_range.1 hn
  -- a run is as much of the characters that pass as there may be, or less
  have hlength := (List.takeWhile_prefix (l := cs) test).length_le
  have htakes : cs.take (min most (cs.takeWhile test).length - n) <+: cs.takeWhile test := by
    refine List.prefix_of_prefix_length_le (List.take_prefix _ _) (List.takeWhile_prefix test) ?_
    rw [List.length_take]
    omega
  refine ⟨(List.take_append_drop _ _).symm, ?_, ?_, fun c hc => ?_⟩
  · rw [← List.length_pos_iff, List.length_take]
    omega
  · rw [List.length_take]
    omega
  · exact List.all_eq_true.1 List.all_takeWhile c (htakes.subset hc)

/-- The tests for what follows the minutes of an offset, apart from a fraction. -/
def zoneSecondsTests : List (List (Char → Bool)) :=
  [[only ':', within '0' '5', Text.isDigit], [within '0' '5', Text.isDigit]]

/-- The tests for an offset up to its minutes. -/
def zoneMinutesTests : List (List (Char → Bool)) :=
  let sign (c : Char) : Bool := c == '+' || c == '-'
  [[sign, Text.isDigit, Text.isDigit, only ':', within '0' '5', Text.isDigit],
    [sign, Text.isDigit, Text.isDigit, within '0' '5', Text.isDigit]]

/-- What can follow the minutes of an offset. -/
inductive ZoneTail : List Char → Prop
  | none : ZoneTail []
  | seconds {tests : List (Char → Bool)} {ss : List Char} (htests : tests ∈ zoneSecondsTests)
      (hss : Fits tests ss) : ZoneTail ss
  | fraction {tests : List (Char → Bool)} {ss fs : List Char} (htests : tests ∈ zoneSecondsTests)
      (hss : Fits tests ss) (hne : fs ≠ []) (hlength : fs.length ≤ 6) (hdigit : ∀ c ∈ fs, Text.isDigit c = true) :
      ZoneTail (ss ++ '.' :: fs)

/-- What is taken behind the minutes of an offset. -/
theorem of_mem_zoneTails (h : t ∈ zoneTails cs) : cs = t.1 ++ t.2 ∧ ZoneTail t.1 := by
  rcases List.mem_append.1 h with h | h
  · obtain ⟨s, hs, hway⟩ := List.mem_flatMap.1 h
    obtain ⟨tests, htests, hfits, rfl⟩ := mem_choices_iff.1 hs
    rcases List.mem_append.1 hway with hway | hway
    · split at hway
      · next rest hrest =>
        obtain ⟨f, hf, rfl⟩ := List.mem_map.1 hway
        obtain ⟨rfl, hne, hlength, hdigit⟩ := of_mem_runs hf
        exact ⟨by rw [hrest, List.append_assoc, List.cons_append],
          .fraction htests hfits hne hlength hdigit⟩
      · cases hway
    · obtain rfl := List.mem_singleton.1 hway
      exact ⟨rfl, .seconds htests hfits⟩
  · obtain rfl := List.mem_singleton.1 h
    exact ⟨rfl, .none⟩

/-- What is taken as an offset. -/
theorem of_mem_zones (h : t ∈ zones cs) : cs = t.1 ++ t.2 ∧ (t.1 = ['Z'] ∨
    ∃ tests ∈ zoneMinutesTests, ∃ minutes tail, Fits tests minutes ∧ ZoneTail tail ∧ t.1 = minutes ++ tail) := by
  rcases List.mem_append.1 h with h | h
  · obtain ⟨m, hm, hway⟩ := List.mem_flatMap.1 h
    obtain ⟨tests, htests, hfits, rfl⟩ := mem_choices_iff.1 hm
    obtain ⟨tail, htail, rfl⟩ := List.mem_map.1 hway
    obtain ⟨hrest, htail⟩ := of_mem_zoneTails htail
    exact ⟨by rw [hrest, List.append_assoc], .inr ⟨tests, htests, _, _, hfits, htail, rfl⟩⟩
  · obtain ⟨tests, htests, hfits, happend⟩ := mem_choices_iff.1 h
    obtain rfl := List.mem_singleton.1 htests
    obtain ⟨c, cs, hc, hnil, htaken⟩ := List.forall₂_cons_left_iff.1 hfits
    obtain rfl := List.forall₂_nil_left_iff.1 hnil
    obtain rfl : c = 'Z' := eq_of_beq hc
    exact ⟨happend, .inl htaken⟩

/-! ## Readings -/

/-- What a piece takes and what it leaves make up the text. -/
theorem append_of_mem_ways {p : Piece} (h : t ∈ p.ways cs) : cs = t.1 ++ t.2 := by
  have hchoices {options : List (List (Char → Bool))} (h : t ∈ choices options cs) : cs = t.1 ++ t.2 := by
    obtain ⟨_, -, -, happend⟩ := mem_choices_iff.1 h
    exact happend
  cases p with
  | fraction | blank => exact (of_mem_runs h).1
  | zone => exact (of_mem_zones h).1
  | _ => exact hchoices h

/-- Characters that a piece takes from some text. -/
def Takes (p : Piece) (taken : List Char) : Prop :=
  ∃ cs rest, (taken, rest) ∈ p.ways cs

/-- What some pieces have taken. -/
def Reads (ps : List Piece) (t : Taking) : Prop :=
  List.Forall₂ (fun p e => e.1 = p ∧ Takes p e.2) ps t

theorem reads_nil_iff {t : Taking} : Reads [] t ↔ t = [] := List.forall₂_nil_left_iff

theorem reads_cons_iff {p : Piece} {ps : List Piece} {t : Taking} :
    Reads (p :: ps) t ↔ ∃ cs rest, Takes p cs ∧ Reads ps rest ∧ t = (p, cs) :: rest := by
  refine List.forall₂_cons_left_iff.trans ?_
  constructor
  · rintro ⟨⟨_, cs⟩, rest, ⟨rfl, htakes⟩, hrest, rfl⟩
    exact ⟨cs, rest, htakes, hrest, rfl⟩
  · rintro ⟨cs, rest, htakes, hrest, rfl⟩
    exact ⟨(p, cs), rest, ⟨rfl, htakes⟩, hrest, rfl⟩

/-- The pieces of a reading. -/
theorem Reads.map_fst {ps : List Piece} {t : Taking} (h : Reads ps t) : t.map Prod.fst = ps := by
  induction ps generalizing t with
  | nil => rw [reads_nil_iff.1 h, List.map_nil]
  | cons p ps ih =>
    obtain ⟨cs, rest, -, hrest, rfl⟩ := reads_cons_iff.1 h
    rw [List.map_cons, ih hrest]

/-- A reading is one of all the pieces, and cuts the text into what these have taken. -/
theorem reads_of_firstReading {ps : List Piece} {t : Taking} (h : firstReading ps cs = some (t, rest)) :
    Reads ps t ∧ cs = t.flatMap Prod.snd ++ rest := by
  induction ps generalizing cs t with
  | nil =>
    obtain ⟨rfl, rfl⟩ := Prod.mk.inj (Option.some.inj h)
    exact ⟨.nil, rfl⟩
  | cons p ps ih =>
    obtain ⟨way, hway, hrest⟩ := List.exists_of_findSome?_eq_some h
    obtain ⟨⟨more, rest'⟩, hmore, htaken⟩ := Option.map_eq_some_iff.1 hrest
    obtain ⟨rfl, rfl⟩ := Prod.mk.inj htaken
    obtain ⟨hreads, hleft⟩ := ih hmore
    refine ⟨.cons ⟨rfl, cs, way.2, hway⟩ hreads, ?_⟩
    rw [append_of_mem_ways hway, hleft, List.flatMap_cons, List.append_assoc]

/-- The pieces of a pattern in two parts have taken what the parts have. -/
theorem Reads.exists_append {ps qs : List Piece} {t : Taking} (h : Reads (ps ++ qs) t) :
    ∃ a b, t = a ++ b ∧ Reads ps a ∧ Reads qs b := by
  induction ps generalizing t with
  | nil => exact ⟨[], t, rfl, .nil, h⟩
  | cons p ps ih =>
    obtain ⟨cs, rest, htakes, hrest, rfl⟩ := reads_cons_iff.1 h
    obtain ⟨a, b, rfl, ha, hb⟩ := ih hrest
    exact ⟨(p, cs) :: a, b, rfl, reads_cons_iff.2 ⟨cs, a, htakes, ha, rfl⟩, hb⟩

/-- A piece takes characters from the front of a text before it tries anything else. -/
def Best (p : Piece) (taken rest : List Char) : Prop :=
  (p.ways (taken ++ rest)).head? = some (taken, rest)

/-- A reading that goes on from what a piece takes first. -/
theorem firstReading_of_best {p : Piece} {ps : List Piece} {t : Taking} {left : List Char} (h : Best p taken rest)
    (hrest : firstReading ps rest = some (t, left)) :
    firstReading (p :: ps) (taken ++ rest) = some ((p, taken) :: t, left) := by
  obtain ⟨more, hways⟩ := List.head?_eq_some_iff.1 h
  rw [firstReading, hways, List.findSome?_cons, hrest]
  rfl

/-- Characters that pass the only tests of a piece. -/
theorem best_of_fits {p : Piece} (hways : p.ways = choices [tests]) (h : Fits tests taken) : Best p taken rest := by
  have htake : take? tests (taken ++ rest) = some (taken, rest) := take?_eq_some_iff.2 ⟨h, rfl⟩
  rw [Best, hways, choices, List.filterMap_cons, htake]
  rfl

/-- Characters that a piece would take if they were the whole text, when it never takes more of them. -/
theorem best_of_closed {p : Piece} (hways : p.ways = choices options)
    (hlength : ∀ tests ∈ options, tests.length ≤ taken.length)
    (h : (p.ways taken).head? = some (taken, [])) : Best p taken rest := by
  have happend : choices options (taken ++ rest) = (choices options taken).map fun t => (t.1, t.2 ++ rest) := by
    rw [choices, choices, List.map_filterMap]
    exact List.filterMap_congr fun tests htests => take?_append (hlength tests htests)
  rw [hways] at h
  rw [Best, hways, happend, List.head?_map, h]
  rfl

end DatePattern

end Amend
