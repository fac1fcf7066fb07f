import Amend.Regex.Search
import Mathlib.Data.List.TakeWhile
import Mathlib.Order.MinMax

/-!
# What a search finds

A matcher looks for the best way to go on, and finds none only if there is none. So if it only matters whether there
is a match, what is tried first does not matter, and a matcher says what the text ahead of a spot must be like: a
single test takes its first character (`isSome_oneMatcher_iff`), a repeated test any beginning of it that is long
enough and all of which passes the test (`isSome_runMatcher_iff`).
-/

namespace Amend.Regex

variable {cs : List Char} {test : Char → Bool} {rest : Rest} {s : Spot} {least : Nat}

/-- What is ahead of a spot in a text. -/
def Spot.ahead (cs : List Char) (s : Spot) : List Char :=
  cs.drop s.position

/-- Behind a beginning of what is ahead, the rest of it is ahead. -/
theorem Spot.ahead_advance {run tail : List Char} (h : s.ahead cs = run ++ tail) :
    (s.advance run.length).ahead cs = tail := by
  rw [ahead, advance, ← List.drop_drop, ← ahead, h, List.drop_left]

/-- Taking what is ahead does not lead beyond the end of the text. -/
theorem Spot.position_advance_le {run tail : List Char} (hplace : s.position ≤ cs.length)
    (h : s.ahead cs = run ++ tail) : (s.advance run.length).position ≤ cs.length := by
  have hlength := congrArg List.length h
  rw [ahead, List.length_drop, List.length_append] at hlength
  show s.position + run.length ≤ cs.length
  omega

/-! ## Tests of characters -/

/-- A single test takes the first character ahead. -/
theorem isSome_oneMatcher_iff : (oneMatcher cs.toArray test rest s).isSome = true ↔
    ∃ c tail, s.ahead cs = c :: tail ∧ test c = true ∧ (rest (s.advance 1)).isSome = true := by
  have hhead : cs.toArray[s.position]? = (s.ahead cs).head? := by simp [Spot.ahead, List.head?_drop]
  rw [oneMatcher, hhead]
  cases s.ahead cs with
  | nil => simp
  | cons c tail => cases htest : test c <;> simp [htest]

/-- The characters in a row that pass a test are counted up to the limit. -/
theorem runLength_eq (position limit : Nat) :
    runLength cs.toArray test position limit = min limit ((cs.drop position).takeWhile test).length := by
  induction limit generalizing position with
  | zero => simp [runLength]
  | succ limit ih =>
    rw [runLength, List.getElem?_toArray, ← List.head?_drop, ih, ← List.drop_drop]
    cases cs.drop position with
    | nil => simp
    | cons c tail => cases htest : test c <;> simp [htest]

/-- Trying fewer and fewer characters comes to every number that is allowed. -/
theorem isSome_fewer_iff {count : Nat} : (fewer rest s least count).isSome = true ↔
    ∃ k, least ≤ k ∧ k ≤ count ∧ (rest (s.advance k)).isSome = true := by
  induction count with
  | zero =>
    rw [fewer]
    split
    · rename_i hzero
      subst hzero
      exact ⟨fun h => ⟨0, le_refl 0, le_refl 0, h⟩, fun ⟨k, _, hk, h⟩ => by
        obtain rfl : k = 0 := by omega
        exact h⟩
    · exact iff_of_false Bool.false_ne_true fun ⟨k, hleast, hk, _⟩ => by omega
  | succ count ih =>
    rw [fewer]
    split
    · exact iff_of_false Bool.false_ne_true fun ⟨k, hleast, hk, _⟩ => by omega
    · rw [Option.isSome_or, Bool.or_eq_true, ih]
      constructor
      · rintro (h | ⟨k, hleast, hk, h⟩)
        · exact ⟨count + 1, by omega, le_refl _, h⟩
        · exact ⟨k, hleast, by omega, h⟩
      · rintro ⟨k, hleast, hk, h⟩
        by_cases hlast : k = count + 1
        · exact .inl (hlast ▸ h)
        · exact .inr ⟨k, hleast, by omega, h⟩

/-- A beginning of a list passes a test throughout if it is not longer than the longest one that does. -/
theorem le_length_takeWhile_iff {l : List Char} {k : Nat} : k ≤ (l.takeWhile test).length ↔
    ∃ run tail, l = run ++ tail ∧ (∀ c ∈ run, test c = true) ∧ run.length = k := by
  constructor
  · intro hk
    refine ⟨(l.takeWhile test).take k, (l.takeWhile test).drop k ++ l.dropWhile test, ?_, fun c hc => ?_, ?_⟩
    · rw [← List.append_assoc, List.take_append_drop, List.takeWhile_append_dropWhile]
    · exact List.all_eq_true.1 List.all_takeWhile c (List.mem_of_mem_take hc)
    · rw [List.length_take, min_eq_left hk]
  · rintro ⟨run, tail, rfl, hrun, rfl⟩
    rw [List.takeWhile_append_of_pos hrun, List.length_append]
    exact Nat.le_add_right _ _

/-- A test that is repeated as often as possible takes any characters ahead that pass it, if there are enough of
them and not too many. -/
theorem isSome_runMatcher_iff {most : Option Nat} :
    (runMatcher cs.toArray test least most .greedy rest s).isSome = true ↔
      ∃ run tail, s.ahead cs = run ++ tail ∧ (∀ c ∈ run, test c = true) ∧ least ≤ run.length ∧
        (∀ n, most = some n → run.length ≤ n) ∧ (rest (s.advance run.length)).isSome = true := by
  have hroom : ((s.ahead cs).takeWhile test).length ≤ cs.length - s.position := by
    rw [← List.length_drop]
    exact (List.takeWhile_prefix test).length_le
  -- a count is available if it is not above the limit and not longer than the longest run
  have havailable (k : Nat) : k ≤ runLength cs.toArray test s.position
      (min (most.getD (cs.length - s.position)) (cs.length - s.position)) ↔
        (∀ n, most = some n → k ≤ n) ∧ k ≤ ((s.ahead cs).takeWhile test).length := by
    rw [runLength_eq]
    change _ ≤ min _ ((s.ahead cs).takeWhile test).length ↔ _
    cases most with
    | none =>
      rw [Option.getD_none, min_self, le_min_iff]
      exact and_congr_left fun hk => iff_of_true (hk.trans hroom) nofun
    | some n =>
      simp only [Option.getD_some, le_min_iff, Option.some.injEq, forall_eq']
      omega
  have hcounts : (runMatcher cs.toArray test least most .greedy rest s).isSome = true ↔
      ∃ k, least ≤ k ∧ ((∀ n, most = some n → k ≤ n) ∧ k ≤ ((s.ahead cs).takeWhile test).length) ∧
        (rest (s.advance k)).isSome = true := by
    simp only [← havailable]
    rw [runMatcher, List.size_toArray]
    split
    · rename_i hfew
      exact iff_of_false Bool.false_ne_true fun ⟨k, hleast, hk, _⟩ => by omega
    · exact isSome_fewer_iff
  rw [hcounts]
  constructor
  · rintro ⟨k, hleast, ⟨hmost, hk⟩, h⟩
    obtain ⟨run, tail, hahead, hrun, rfl⟩ := le_length_takeWhile_iff.1 hk
    exact ⟨run, tail, hahead, hrun, hleast, hmost, h⟩
  · rintro ⟨run, tail, hahead, hrun, hleast, hmost, h⟩
    exact ⟨run.length, hleast, ⟨hmost, le_length_takeWhile_iff.2 ⟨run, tail, hahead, hrun, rfl⟩⟩, h⟩

/-! ## Parts and places -/

/-- What may be left out is tried once before it is left out. -/
theorem isSome_optional_iff {round : Matcher} :
    (roundsMatcher cs.toArray round 0 (some 1) .greedy rest s).isSome = true ↔
      (round rest s).isSome = true ∨ (rest s).isSome = true := by
  simp [roundsMatcher, greedyRounds, mayRepeat]

/-- The end of a text without line feeds is where nothing is ahead. -/
theorem holds_lineEnd_iff (hfeed : '\n' ∉ cs) (hplace : s.position ≤ cs.length) :
    Anchor.lineEnd.holds {} cs.toArray s.position = true ↔ s.ahead cs = [] := by
  have hnone : cs[s.position]? ≠ some '\n' := fun h => hfeed (List.mem_of_getElem? h)
  have hend : Anchor.lineEnd.holds {} cs.toArray s.position = true ↔ s.position = cs.length := by
    simp [Anchor.holds, hnone]
  rw [hend, Spot.ahead, List.drop_eq_nil_iff]
  omega

/-- A pattern that only matches at the start of a text is only looked for there. -/
theorem matchesFrom_anchored {start : Spot → Option Spot} (h : ∀ p, 0 < p → start (.first p) = none) (count : Nat) :
    matchesFrom start 0 count = (start (.first 0)).isSome := by
  have hlater (p : Nat) : ∀ n, 0 < p → matchesFrom start p n = false := by
    intro n
    induction n generalizing p with
    | zero => intro hp; rw [matchesFrom, h p hp]; rfl
    | succ n ih => intro hp; rw [matchesFrom, h p hp, ih (p + 1) (by omega)]; rfl
  cases count with
  | zero => rfl
  | succ count => rw [matchesFrom, hlater 1 count (by omega), Bool.or_false]

end Amend.Regex
