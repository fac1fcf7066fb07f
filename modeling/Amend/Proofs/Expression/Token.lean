import Amend.Proofs.Entries
import Amend.Proofs.Expression.Lexeme
import Mathlib.Data.List.Nodup

/-!
# Tokens of fields

Every field of a request gets a token for its placeholders. A plain name is its own token, and starts with
a letter; every other field is numbered by its position behind a low line. So where no field occurs twice,
no two fields share a token (`tokenOf_injective`), and no token is one of the two that are kept for what
increments and appends start from. No token has a delimiter in it, so a placeholder is one lexeme.
-/

namespace Amend.Expression

/-! ## Characters of tokens -/

/-- A letter, digit or low line is no delimiter. -/
theorem delimiter?_of_isTokenChar {c : Char} (h : isTokenChar c = true) :
    Lexeme.delimiter? c = none := by
  unfold Lexeme.delimiter?
  split
  · exact absurd h (by decide)
  · exact absurd h (by decide)
  · exact absurd h (by decide)
  · exact absurd h (by decide)
  · rfl

/-- Every letter may stand in a token. -/
theorem isTokenChar_of_isAlpha {c : Char} (h : c.isAlpha = true) : isTokenChar c = true := by
  simp [isTokenChar, Char.isAlphanum, h]

/-- Every digit may stand in a token. -/
theorem isTokenChar_of_isDigit {c : Char} (h : c.isDigit = true) : isTokenChar c = true := by
  simp [isTokenChar, Char.isAlphanum, h]

/-- A plain name starts with a letter. -/
theorem exists_cons_of_isPlain {cs : List Char} (h : isPlain cs = true) :
    ∃ c rest, cs = c :: rest ∧ c.isAlpha = true := by
  cases cs with
  | nil => cases h
  | cons c rest =>
    rw [isPlain, Bool.and_eq_true] at h
    exact ⟨c, rest, rfl, h.1⟩

/-- A plain name consists of token characters, but for a line feed that may end it. -/
theorem isTokenChar_of_isPlain {cs : List Char} (h : isPlain cs = true) {c : Char} (hc : c ∈ cs) :
    isTokenChar c = true ∨ c = '\n' := by
  obtain ⟨d, rest, rfl, hd⟩ := exists_cons_of_isPlain h
  rcases List.mem_cons.1 hc with rfl | hc
  · exact Or.inl (isTokenChar_of_isAlpha hd)
  · simp only [isPlain, hd, Bool.true_and, Bool.or_eq_true, Bool.and_eq_true, List.all_eq_true,
      beq_iff_eq] at h
    rcases h with h | ⟨hlast, h⟩
    · exact Or.inl (h c hc)
    · obtain ⟨front, rfl⟩ := List.getLast?_eq_some_iff.1 hlast
      rw [List.dropLast_concat] at h
      rcases List.mem_append.1 hc with hc | hc
      · exact Or.inl (h c hc)
      · exact Or.inr (by simpa using hc)

/-- The characters of a token that numbers a field. -/
theorem toList_numbered (i : Nat) : ("_f" ++ toString i).toList = '_' :: 'f' :: Nat.toDigits 10 i := by
  simp [String.toList_append, Nat.toString_eq_repr, Nat.toList_repr]

/-- No token has a delimiter in it. -/
theorem delimiter?_of_mem_token {field : String} {i : Nat} {c : Char}
    (hc : c ∈ (token field i).toList) : Lexeme.delimiter? c = none := by
  rw [token] at hc
  split at hc
  · rename_i hplain
    rcases isTokenChar_of_isPlain hplain hc with h | rfl
    · exact delimiter?_of_isTokenChar h
    · rfl
  · rw [toList_numbered] at hc
    simp only [List.mem_cons] at hc
    rcases hc with rfl | rfl | hc
    · rfl
    · rfl
    · exact delimiter?_of_isTokenChar
        (isTokenChar_of_isDigit (Nat.isDigit_of_mem_toDigits (by decide) (by decide) hc))

/-! ## Distinct tokens -/

/-- Numbered tokens are as different as their numbers. -/
theorem numbered_injective {i j : Nat} (h : "_f" ++ toString i = "_f" ++ toString j) : i = j := by
  have hchars := congrArg String.toList h
  rw [toList_numbered, toList_numbered] at hchars
  have hdigits : Nat.toDigits 10 i = Nat.toDigits 10 j := by simpa using hchars
  rw [← Nat.ofDigitChars_ten_toDigits (n := i), hdigits, Nat.ofDigitChars_ten_toDigits]

/-- A plain name is no numbered token. -/
theorem ne_numbered_of_isPlain {field : String} (h : isPlain field.toList = true) (i : Nat) :
    field ≠ "_f" ++ toString i := by
  rintro rfl
  obtain ⟨c, rest, heq, hc⟩ := exists_cons_of_isPlain h
  rw [toList_numbered] at heq
  obtain rfl : '_' = c := (List.cons.inj heq).1
  exact absurd hc (by decide)

/-- Two fields with one token have one name or one position. -/
theorem eq_or_eq_of_token_eq {f g : String} {i j : Nat} (h : token f i = token g j) :
    f = g ∨ i = j := by
  unfold token at h
  split at h
  · rename_i hf
    split at h
    · exact Or.inl h
    · exact absurd h (ne_numbered_of_isPlain hf j)
  · split at h
    · rename_i hg
      exact absurd h.symm (ne_numbered_of_isPlain hg i)
    · exact Or.inr (numbered_injective h)

/-- A token is neither of the two that stand for what increments and appends start from. -/
theorem token_ne_start (field : String) (i : Nat) :
    ":" ++ token field i ≠ startZero ∧ ":" ++ token field i ≠ startEmpty := by
  -- behind the mark and a low line both start with `s`, and a numbered token goes on with `f`
  have key : ∀ rest, (":" ++ token field i).toList ≠ ':' :: '_' :: 's' :: rest := by
    intro rest h
    rw [String.toList_append, token] at h
    split at h
    · rename_i hplain
      obtain ⟨c, cs, heq, hc⟩ := exists_cons_of_isPlain hplain
      rw [heq] at h
      obtain rfl : c = '_' := (List.cons.inj (List.cons.inj h).2).1
      exact absurd hc (by decide)
    · rw [toList_numbered] at h
      exact absurd (congrArg (fun cs => cs[2]?) h) (by simp)
  exact ⟨fun h => key _ (congrArg String.toList h), fun h => key _ (congrArg String.toList h)⟩

/-! ## The tokens of a request -/

/-- The token of a field among all fields of a request. -/
def tokenOf (fields : List String) (field : String) : String :=
  ((tokens fields).get? field).getD ""

/-- Where no field occurs twice, the token of a field is the one for its position. -/
theorem exists_tokenOf_eq {fields : List String} (h : fields.Nodup) {field : String}
    (hf : field ∈ fields) :
    ∃ i, fields[i]? = some field ∧ tokenOf fields field = token field i := by
  obtain ⟨i, hi⟩ := List.getElem?_of_mem hf
  refine ⟨i, hi, ?_⟩
  let es := fields.zipIdx.map fun e => (e.1, token e.1 e.2)
  have hes : tokens fields = OrderedMap.ofList es := by
    rw [tokens, OrderedMap.ofList, List.foldl_map]
  have hkeys : es.map Prod.fst = fields := by
    rw [List.map_map]
    exact List.zipIdx_map_fst 0 fields
  have hmem : (field, token field i) ∈ es :=
    List.mem_map.2 ⟨(field, i), List.mk_mem_zipIdx_iff_getElem?.2 hi, rfl⟩
  rw [tokenOf, hes, (OrderedMap.get?_ofList (hkeys.symm ▸ h)).2 hmem]
  rfl

/-- Where no field occurs twice, no two fields share a token. -/
theorem tokenOf_injective {fields : List String} (h : fields.Nodup) {f g : String} (hf : f ∈ fields)
    (hg : g ∈ fields) (heq : tokenOf fields f = tokenOf fields g) : f = g := by
  obtain ⟨i, hi, hti⟩ := exists_tokenOf_eq h hf
  obtain ⟨j, hj, htj⟩ := exists_tokenOf_eq h hg
  rcases eq_or_eq_of_token_eq (hti.symm.trans (heq.trans htj)) with hfg | rfl
  · exact hfg
  · exact Option.some.inj (hi.symm.trans hj)

/-- Distinct fields have distinct placeholders, whatever mark these start with. -/
theorem nodup_map_placeholder {fields fs : List String} (h : fields.Nodup) (hsub : ∀ f ∈ fs, f ∈ fields)
    (hfs : fs.Nodup) (mark : String) : (fs.map fun f => mark ++ tokenOf fields f).Nodup := by
  refine List.Nodup.map_on ?_ hfs
  intro f hf g hg heq
  exact tokenOf_injective h (hsub f hf) (hsub g hg) ((String.append_right_inj mark).1 heq)

/-- No token of a field has a delimiter in it. -/
theorem delimiter?_of_mem_tokenOf {fields : List String} (h : fields.Nodup) {field : String}
    (hf : field ∈ fields) {c : Char} (hc : c ∈ (tokenOf fields field).toList) :
    Lexeme.delimiter? c = none := by
  obtain ⟨i, -, hi⟩ := exists_tokenOf_eq h hf
  exact delimiter?_of_mem_token (hi ▸ hc)

end Amend.Expression
