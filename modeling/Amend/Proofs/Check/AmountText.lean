import Amend.Check.Run
import Amend.Proofs.Decimal.Text
import Amend.Proofs.Regex.Search
import Amend.Proofs.Stages

/-!
# The texts of amounts

An amount of money is written with digits, and after a point with one or two more (`SpellsAmount`). The text of a size
is of this form exactly if its exponent is `0`, `-1` or `-2` (`isAmount_chars_iff`), because any other exponent leaves
more decimal places or is written out.

The check for amounts asks whether a text is of this form, and quotes a pattern in its violation. It is the search for
this pattern that is meant (`runCurrency_eq`): in the text of a decimal, which is a line of ASCII, the pattern is found
exactly if the text is of the form of an amount.
-/

namespace Amend

/-! ## The form of amounts -/

/-- A text says an amount: there are digits, and one or two more behind a point if there is one. -/
inductive SpellsAmount : List Char → Prop
  | whole {whole : List Char} (nonempty : whole ≠ []) (digits : ∀ d ∈ whole, d.isDigit = true) : SpellsAmount whole
  | pointed {whole cents : List Char} (nonempty : whole ≠ []) (digits : ∀ d ∈ whole, d.isDigit = true)
      (cents_digits : ∀ d ∈ cents, d.isDigit = true) (cents_length : cents.length = 1 ∨ cents.length = 2) :
      SpellsAmount (whole ++ '.' :: cents)

deriving instance DecidableEq for Regex

deriving instance DecidableEq for TextPattern

namespace Check

open Decimal

section Forms

variable {whole fraction cs : List Char} {c : Nat} {e place : Int}

/-- Digits are an amount. -/
theorem isAmount_whole (hne : whole ≠ []) (hw : ∀ d ∈ whole, d.isDigit = true) : isAmount whole = true := by
  have htake := takeWhile_digits hw noDigitAhead_nil
  have hdrop := dropWhile_digits hw noDigitAhead_nil
  rw [List.append_nil] at htake hdrop
  simp [isAmount, htake, hdrop, hne]

/-- Digits around a point are an amount if one or two of them stand behind it. -/
theorem isAmount_pointed_iff (hne : whole ≠ []) (hw : ∀ d ∈ whole, d.isDigit = true)
    (hf : ∀ d ∈ fraction, d.isDigit = true) :
    isAmount (whole ++ '.' :: fraction) = true ↔ fraction.length = 1 ∨ fraction.length = 2 := by
  have hpoint : NoDigitAhead ('.' :: fraction) := noDigitAhead_cons rfl _
  have hall : fraction.all Char.isDigit = true := List.all_eq_true.2 hf
  simp [isAmount, takeWhile_digits hw hpoint, dropWhile_digits hw hpoint, hne, hall]

/-- A text is taken for an amount if it says one. -/
theorem isAmount_iff : isAmount cs = true ↔ SpellsAmount cs := by
  constructor
  · intro h
    have hdigits : ∀ d ∈ cs.takeWhile Char.isDigit, d.isDigit = true := List.all_eq_true.1 List.all_takeWhile
    rw [← List.takeWhile_append_dropWhile (p := Char.isDigit) (l := cs)]
    rw [isAmount, Bool.and_eq_true] at h
    obtain ⟨hne, h⟩ := h
    have hnonempty : cs.takeWhile Char.isDigit ≠ [] := by simpa using hne
    split at h
    · rename_i hdrop
      rw [hdrop, List.append_nil]
      exact .whole hnonempty hdigits
    · rename_i cents hdrop
      rw [hdrop]
      rw [Bool.and_eq_true, List.all_eq_true] at h
      exact .pointed hnonempty hdigits h.1 (by simpa using h.2)
    · cases h
  · rintro (⟨hne, hw⟩ | ⟨hne, hw, hc, hlen⟩)
    · exact isAmount_whole hne hw
    · exact (isAmount_pointed_iff hne hw hc).2 hlen

/-- There is nothing in an amount but digits and points. -/
theorem isDigit_or_of_isAmount (h : isAmount cs = true) : ∀ d ∈ cs, d.isDigit = true ∨ d = '.' := by
  intro d hd
  rcases isAmount_iff.1 h with ⟨-, hw⟩ | ⟨-, hw, hc, -⟩
  · exact .inl (hw d hd)
  · rcases List.mem_append.1 hd with hd | hd
    · exact .inl (hw d hd)
    · rcases List.mem_cons.1 hd with rfl | hd
      · exact .inr rfl
      · exact .inl (hc d hd)

/-- The digits of a coefficient around a point are an amount if no more than two of them stand behind it. -/
theorem isAmount_pointed_digits_iff (hplace : place ≤ digitCount c) :
    isAmount (pointed (Nat.toDigits 10 c) place) = true ↔ digitCount c ≤ place + 2 := by
  have hpos := digitCount_pos c
  have hlen : (Nat.toDigits 10 c).length = digitCount c := rfl
  rw [pointed]
  split
  · -- the number is below one, and all its digits stand behind the point
    rename_i hle
    have hamount := isAmount_pointed_iff (List.cons_ne_nil '0' []) (by simp)
      (isDigit_of_mem_zeros_digits place.natAbs c)
    rw [List.singleton_append] at hamount
    rw [hamount, List.length_append, List.length_replicate, hlen]
    omega
  · split
    · -- all digits stand before the point
      rename_i hlt hge
      rw [show place.natAbs - (Nat.toDigits 10 c).length = 0 by omega, List.replicate_zero, List.append_nil,
        isAmount_whole Nat.toDigits_ne_nil fun _ => isDigit_of_mem_digits]
      exact iff_of_true rfl (by omega)
    · -- the point stands among the digits
      rename_i hlt hge
      have hne : (Nat.toDigits 10 c).take place.natAbs ≠ [] := by
        rw [← List.length_pos_iff, List.length_take]
        omega
      rw [isAmount_pointed_iff hne (fun _ h => isDigit_of_mem_digits (List.mem_of_mem_take h))
        (fun _ h => isDigit_of_mem_digits (List.mem_of_mem_drop h)), List.length_drop, hlen]
      omega

/-- The text of a size is an amount if its exponent is between `-2` and `0`. -/
theorem isAmount_chars_iff : isAmount (Decimal.finite false c e).chars = true ↔ -2 ≤ e ∧ e ≤ 0 := by
  have hpos := digitCount_pos c
  have hlen : (Nat.toDigits 10 c).length = digitCount c := rfl
  show isAmount (magnitudeChars c e) = true ↔ _
  simp only [magnitudeChars, hlen]
  split
  · rw [isAmount_pointed_digits_iff (by omega)]
    omega
  · -- an exponent is written, which no amount has
    refine iff_of_false (fun h => ?_) (by omega)
    have hmark := isDigit_or_of_isAmount h 'E' (List.mem_append_right _ List.mem_cons_self)
    exact absurd hmark (by decide)

end Forms

/-! ## The pattern of amounts -/

/-- The part of the pattern behind the digits: a point with one or two digits, which may be left out, and the end. -/
def centsBody : Regex :=
  .seq (.times (.seq (.one (.literal 46 false)) (.times (.one (.set [.digit false] false)) 1 (some 2) .greedy))
    0 (some 1) .greedy) (.anchor .lineEnd)

/-- The pattern of amounts as it is read. -/
def amountBody : Regex :=
  .seq (.anchor .lineStart) (.seq (.times (.one (.set [.digit false] false)) 1 none .greedy) centsBody)

/-- The pattern is read so. -/
theorem patternOf_amountPattern : patternOf amountPattern = .ok ⟨amountPattern, {}, 0, amountBody⟩ :=
  toOption_eq_some_iff.1 (by decide +kernel)

/-- The characters of a text are ASCII, and none of them ends a line. -/
def IsAsciiLine (cs : List Char) : Prop :=
  ∀ c ∈ cs, c.toNat < 128 ∧ c ≠ '\n'

section Search

variable {cs : List Char} {rest : Regex.Rest} {s : Regex.Spot}

/-- The test for digits. -/
theorem holds_digit_iff {c : Char} (h : c.toNat < 128) :
    (Regex.CharTest.set [.digit false] false).holds {} c = true ↔ c.isDigit = true := by
  have hdigit := Text.isDigit_ascii c.toNat h
  rw [Char.ofNat_toNat] at hdigit
  simp [Regex.CharTest.holds, Regex.ClassItem.has, hdigit]

/-- The test for a point. -/
theorem holds_point_iff {c : Char} : (Regex.CharTest.literal 46 false).holds {} c = true ↔ c = '.' := by
  have hcode : 46 = c.toNat ↔ c = '.' := by
    rw [← Char.toNat_inj, eq_comm]
    exact Iff.rfl
  simp [Regex.CharTest.holds, Regex.sameUnder, hcode]

/-- What is ahead of a spot in a line of ASCII is one too. -/
theorem IsAsciiLine.ahead (hline : IsAsciiLine cs) : IsAsciiLine (s.ahead cs) :=
  fun c hc => hline c (List.mem_of_mem_drop hc)

/-- The end of a line is matched where nothing is ahead. -/
theorem isSome_lineEnd_iff (hline : IsAsciiLine cs) (hplace : s.position ≤ cs.length) :
    ((Regex.anchor .lineEnd).matcher cs.toArray {} some s).isSome = true ↔ s.ahead cs = [] := by
  have hfeed : '\n' ∉ cs := fun h => (hline _ h).2 rfl
  exact Option.isSome_ite.trans (Regex.holds_lineEnd_iff hfeed hplace)

/-- Digits that are repeated as often as possible and then the rest. -/
theorem isSome_digits_iff (hline : IsAsciiLine cs) {least : Nat} {most : Option Nat} :
    ((Regex.times (.one (.set [.digit false] false)) least most .greedy).matcher cs.toArray {} rest s).isSome = true ↔
      ∃ run tail, s.ahead cs = run ++ tail ∧ (∀ d ∈ run, d.isDigit = true) ∧ least ≤ run.length ∧
        (∀ n, most = some n → run.length ≤ n) ∧ (rest (s.advance run.length)).isSome = true := by
  refine Regex.isSome_runMatcher_iff.trans (exists_congr fun run => exists_congr fun tail => ?_)
  refine and_congr_right fun hahead => and_congr_left fun _ => forall₂_congr fun d hd => ?_
  have hmem : d ∈ s.ahead cs := by
    rw [hahead]
    exact List.mem_append_left _ hd
  exact holds_digit_iff (hline.ahead d hmem).1

/-- Behind the digits of an amount, the pattern matches if nothing is ahead, or a point with one or two digits. -/
theorem isSome_centsBody_iff (hline : IsAsciiLine cs) (hplace : s.position ≤ cs.length) :
    (centsBody.matcher cs.toArray {} some s).isSome = true ↔
      s.ahead cs = [] ∨ ∃ cents, s.ahead cs = '.' :: cents ∧ (∀ d ∈ cents, d.isDigit = true) ∧
        (cents.length = 1 ∨ cents.length = 2) := by
  refine Regex.isSome_optional_iff.trans (or_comm.trans (or_congr (isSome_lineEnd_iff hline hplace) ?_))
  refine Regex.isSome_oneMatcher_iff.trans ⟨?_, ?_⟩
  · rintro ⟨_, tail, hahead, hpoint, h⟩
    obtain rfl := holds_point_iff.1 hpoint
    have hahead : s.ahead cs = ['.'] ++ tail := hahead
    obtain ⟨cents, behind, hcents, hdigits, hleast, hmost, hend⟩ := (isSome_digits_iff hline).1 h
    have hnext : (s.advance 1).position ≤ cs.length := Regex.Spot.position_advance_le hplace hahead
    rw [isSome_lineEnd_iff hline (Regex.Spot.position_advance_le hnext hcents),
      Regex.Spot.ahead_advance hcents] at hend
    have htail : (s.advance 1).ahead cs = tail := Regex.Spot.ahead_advance hahead
    rw [hcents, hend, List.append_nil] at htail
    have hmost := hmost 2 rfl
    exact ⟨cents, htail ▸ hahead, hdigits, by omega⟩
  · rintro ⟨cents, hahead, hdigits, hlen⟩
    have hahead : s.ahead cs = ['.'] ++ cents := hahead
    have hnext : (s.advance 1).position ≤ cs.length := Regex.Spot.position_advance_le hplace hahead
    have hcents : (s.advance 1).ahead cs = cents ++ [] := by
      rw [List.append_nil]
      exact Regex.Spot.ahead_advance hahead
    refine ⟨'.', cents, hahead, holds_point_iff.2 rfl, (isSome_digits_iff hline).2 ⟨cents, [], hcents, hdigits, ?_⟩⟩
    refine ⟨by omega, fun n hn => ?_, ?_⟩
    · obtain rfl := Option.some.inj hn
      omega
    · rw [isSome_lineEnd_iff hline (Regex.Spot.position_advance_le hnext hcents), Regex.Spot.ahead_advance hcents]

/-- At the start of a text, the pattern of amounts matches a text that says one. -/
theorem isSome_amountBody_iff (hline : IsAsciiLine cs) :
    (amountBody.matcher cs.toArray {} some (.first 0)).isSome = true ↔ SpellsAmount cs := by
  refine (isSome_digits_iff hline).trans ⟨?_, ?_⟩
  · rintro ⟨whole, tail, hahead, hdigits, hleast, -, h⟩
    have hne : whole ≠ [] := List.length_pos_iff.1 hleast
    rw [isSome_centsBody_iff hline (Regex.Spot.position_advance_le (Nat.zero_le _) hahead),
      Regex.Spot.ahead_advance hahead] at h
    have hcs : cs = whole ++ tail := hahead
    rcases h with rfl | ⟨cents, rfl, hcents, hlen⟩
    · rw [hcs, List.append_nil]
      exact .whole hne hdigits
    · rw [hcs]
      exact .pointed hne hdigits hcents hlen
  · rintro (⟨hne, hdigits⟩ | @⟨whole, cents, hne, hdigits, hcents, hlen⟩)
    · have hahead : (Regex.Spot.first 0).ahead cs = cs ++ [] := (List.append_nil cs).symm
      refine ⟨cs, [], hahead, hdigits, List.length_pos_iff.2 hne, nofun, ?_⟩
      rw [isSome_centsBody_iff hline (Regex.Spot.position_advance_le (Nat.zero_le _) hahead),
        Regex.Spot.ahead_advance hahead]
      exact .inl rfl
    · have hahead : (Regex.Spot.first 0).ahead (whole ++ '.' :: cents) = whole ++ '.' :: cents := rfl
      refine ⟨whole, _, hahead, hdigits, List.length_pos_iff.2 hne, nofun, ?_⟩
      rw [isSome_centsBody_iff hline (Regex.Spot.position_advance_le (Nat.zero_le _) hahead),
        Regex.Spot.ahead_advance hahead]
      exact .inr ⟨cents, rfl, hcents, hlen⟩

/-- A search for the pattern of amounts in a line of ASCII finds out whether it says an amount. -/
theorem search_amountPattern (hline : IsAsciiLine cs) :
    TextPattern.search ⟨amountPattern, {}, 0, amountBody⟩ (String.ofList cs) = isAmount cs := by
  have hlater (p : Nat) (hp : 0 < p) : amountBody.matcher cs.toArray {} some (.first p) = none := by
    have hstart : ¬ Regex.Anchor.lineStart.holds {} cs.toArray p = true := by
      simpa [Regex.Anchor.holds] using hp.ne'
    exact if_neg hstart
  rw [Bool.eq_iff_iff, isAmount_iff, ← isSome_amountBody_iff hline, TextPattern.search, String.toList_ofList,
    Regex.matchesFrom_anchored hlater]

end Search

/-! ## The texts of decimals -/

section Chars

variable {cs ds : List Char}

/-- Lines of ASCII one after the other make one. -/
theorem IsAsciiLine.append (hc : IsAsciiLine cs) (hd : IsAsciiLine ds) : IsAsciiLine (cs ++ ds) :=
  List.forall_mem_append.2 ⟨hc, hd⟩

/-- Digits are ASCII. -/
theorem isAsciiLine_of_isDigit (h : ∀ d ∈ cs, d.isDigit = true) : IsAsciiLine cs := by
  intro d hd
  obtain ⟨hleast, hmost⟩ : 48 ≤ d.toNat ∧ d.toNat ≤ 57 := Char.isDigit_iff_toNat.1 (h d hd)
  refine ⟨by omega, ?_⟩
  rintro rfl
  exact absurd hleast (by decide)

/-- Digits around a point are ASCII. -/
theorem isAsciiLine_pointed (h : ∀ d ∈ ds, d.isDigit = true) (place : Int) : IsAsciiLine (pointed ds place) := by
  have hpoint : IsAsciiLine ['.'] := by simp [IsAsciiLine]
  have hzeros (n : Nat) : IsAsciiLine (List.replicate n '0') :=
    isAsciiLine_of_isDigit fun d hd => by rw [List.eq_of_mem_replicate hd]; rfl
  have hdigits := isAsciiLine_of_isDigit h
  rw [pointed]
  split
  · exact (hzeros 1).append (hpoint.append ((hzeros _).append hdigits))
  · split
    · exact hdigits.append (hzeros _)
    · have htake : IsAsciiLine (ds.take place.natAbs) := fun d hd => hdigits d (List.mem_of_mem_take hd)
      have hdrop : IsAsciiLine (ds.drop place.natAbs) := fun d hd => hdigits d (List.mem_of_mem_drop hd)
      exact htake.append (hpoint.append hdrop)

/-- The text of a decimal is a line of ASCII. -/
theorem isAsciiLine_chars (d : Decimal) : IsAsciiLine d.chars := by
  have hsign (n : Bool) : IsAsciiLine (signChars n) := by
    cases n <;> simp [IsAsciiLine, signChars]
  have hdigits (n : Nat) : IsAsciiLine (Nat.toDigits 10 n) := isAsciiLine_of_isDigit fun _ => isDigit_of_mem_digits
  have hexponent (e : Int) : IsAsciiLine (exponentChars e) := by
    have hmark : IsAsciiLine ['E', if e < 0 then '-' else '+'] := by
      split <;> simp [IsAsciiLine]
    exact hmark.append (hdigits _)
  cases d with
  | finite n c e =>
    refine (hsign n).append ?_
    have hpointed := isAsciiLine_pointed fun _ => isDigit_of_mem_digits (n := c)
    simp only [magnitudeChars]
    split
    · exact hpointed _
    · exact (hpointed 1).append (hexponent _)
  | infinite n => exact (hsign n).append (by simp [IsAsciiLine])
  | nan n s payload mark =>
    have hquiet : IsAsciiLine "NaN".toList := by simp [IsAsciiLine]
    have hsignal : IsAsciiLine (if s then ['s'] else []) := by
      split <;> simp [IsAsciiLine]
    have hpayload : IsAsciiLine (if payload = 0 then [] else Nat.toDigits 10 payload) := by
      split
      · exact List.forall_mem_nil _
      · exact hdigits payload
    exact (((hsign n).append hsignal).append hquiet).append hpayload

/-- A decimal matches the pattern of amounts if its text is taken for an amount. -/
theorem runMatching_amountPattern (d : Decimal) :
    runMatching (.number (.decimal d)) (.text amountPattern) =
      require (isAmount d.chars) (.noMatch (.number (.decimal d)) amountPattern) := by
  rw [← search_amountPattern (isAsciiLine_chars d), runMatching]
  simp only [patternOf_amountPattern]
  rfl

/-- The check for amounts looks for the pattern of amounts in the text of the rounded size. -/
theorem runCurrency_eq (value : Payload) (allowNegative : Bool) : runCurrency value allowNegative = (do
    let n ← numberOf value
    if !allowNegative then
      if ← orFault (compares .lt n (.int 0)) then throw (.refused .negativeAmount)
    let d ← orFault (amountOf n)
    runMatching (.number (.decimal d)) (.text amountPattern)) := by
  simp only [runMatching_amountPattern]
  rfl

end Chars

end Check

end Amend
