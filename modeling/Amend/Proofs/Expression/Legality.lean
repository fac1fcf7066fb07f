import Amend.Proofs.Expression.Placeholder

/-!
# Legal placeholders

The store takes a placeholder to be its mark and one or more ASCII letters, digits and low lines. The name of
a field may hold any characters, and it becomes part of a placeholder only if it is an identifier, or an
identifier with a line feed behind it; in all other cases a number takes its place. So a placeholder is legal
unless it comes of a name with that line feed (`isLegal_token_iff`), and an expression has legal placeholders
exactly if no such name is among the fields (`Expression.compile_isLegal_iff`). A name with the line feed is
taken as it is, and it breaks the placeholder that it is put into (`not_isLegal_broken`).
-/

namespace Amend.Expression

/-! ## Names and placeholders -/

/-- An ASCII letter. -/
def IsLetter (c : Char) : Prop :=
  ('A' ≤ c ∧ c ≤ 'Z') ∨ ('a' ≤ c ∧ c ≤ 'z')

/-- An ASCII letter, digit or low line. -/
def IsWordChar (c : Char) : Prop :=
  IsLetter c ∨ ('0' ≤ c ∧ c ≤ '9') ∨ c = '_'

/-- A letter and any letters, digits and low lines behind it. -/
def IsIdentifier (name : String) : Prop :=
  ∃ c rest, name.toList = c :: rest ∧ IsLetter c ∧ ∀ d ∈ rest, IsWordChar d

/-- An identifier and a line feed behind it. -/
def IsIdentifierLine (name : String) : Prop :=
  ∃ identifier, IsIdentifier identifier ∧ name = identifier ++ "\n"

/-- A mark and one or more letters, digits and low lines behind it. -/
def IsLegal (mark : Char) (placeholder : String) : Prop :=
  ∃ cs, placeholder.toList = mark :: cs ∧ cs ≠ [] ∧ ∀ c ∈ cs, IsWordChar c

/-- The placeholders of an expression are legal, those that stand for something and those of the text. -/
structure HasLegalPlaceholders (e : Expression) : Prop where
  names : ∀ k ∈ e.names.keys, IsLegal '#' k
  values : ∀ k ∈ e.values.keys, IsLegal ':' k
  names_text : ∀ k ∈ namePlaceholders e.text, IsLegal '#' k
  values_text : ∀ k ∈ valuePlaceholders e.text, IsLegal ':' k

/-! ## Plain names -/

/-- A range of code points is one of characters. -/
theorem inRange_iff (low high c : Char) :
    (decide (low.val ≤ c.val) && decide (c.val ≤ high.val)) = true ↔ low ≤ c ∧ c ≤ high := by
  rw [Bool.and_eq_true, decide_eq_true_iff, decide_eq_true_iff]
  rfl

/-- The letters that a plain name may start with are the ASCII letters. -/
theorem isAlpha_iff {c : Char} : c.isAlpha = true ↔ IsLetter c := by
  have hupper : c.isUpper = true ↔ 'A' ≤ c ∧ c ≤ 'Z' := decide_eq_true_iff
  have hlower : c.isLower = true ↔ 'a' ≤ c ∧ c ≤ 'z' := inRange_iff 'a' 'z' c
  exact Bool.or_eq_true_iff.trans (or_congr hupper hlower)

/-- The characters of tokens are the ASCII letters, digits and low lines. -/
theorem isTokenChar_iff {c : Char} : isTokenChar c = true ↔ IsWordChar c := by
  have hdigit : c.isDigit = true ↔ '0' ≤ c ∧ c ≤ '9' := inRange_iff '0' '9' c
  have halphanum : c.isAlphanum = true ↔ IsLetter c ∨ ('0' ≤ c ∧ c ≤ '9') :=
    Bool.or_eq_true_iff.trans (or_congr isAlpha_iff hdigit)
  rw [isTokenChar, Bool.or_eq_true, halphanum, beq_iff_eq, or_assoc]
  rfl

/-- A line feed is no letter, digit or low line. -/
theorem not_isWordChar_lineFeed : ¬ IsWordChar '\n' := by
  rw [← isTokenChar_iff]
  decide

/-- A name is plain exactly if it is an identifier, or an identifier with a line feed behind it. -/
theorem isPlain_iff {name : String} :
    isPlain name.toList = true ↔ IsIdentifier name ∨ IsIdentifierLine name := by
  constructor
  · intro h
    obtain ⟨c, rest, heq, hc⟩ := exists_cons_of_isPlain h
    rw [heq] at h
    simp only [isPlain, hc, Bool.true_and, Bool.or_eq_true, Bool.and_eq_true, List.all_eq_true, beq_iff_eq,
      isTokenChar_iff] at h
    rcases h with h | ⟨hlast, h⟩
    · exact .inl ⟨c, rest, heq, isAlpha_iff.1 hc, h⟩
    · obtain ⟨front, rfl⟩ := List.getLast?_eq_some_iff.1 hlast
      rw [List.dropLast_concat] at h
      refine .inr ⟨String.ofList (c :: front), ⟨c, front, ?_, isAlpha_iff.1 hc, h⟩, ?_⟩
      · rw [String.toList_ofList]
      · rw [← String.toList_inj, heq, String.toList_append, String.toList_ofList]
        rfl
  · rintro (⟨c, rest, heq, hc, hrest⟩ | ⟨identifier, ⟨c, front, heq, hc, hfront⟩, rfl⟩)
    · simp only [heq, isPlain, isAlpha_iff.2 hc, Bool.true_and, Bool.or_eq_true, List.all_eq_true,
        isTokenChar_iff]
      exact .inl hrest
    · have hline : (identifier ++ "\n").toList = c :: (front ++ ['\n']) := by
        rw [String.toList_append, heq]
        rfl
      simp only [hline, isPlain, isAlpha_iff.2 hc, Bool.true_and, Bool.or_eq_true, List.all_eq_true,
        isTokenChar_iff, List.getLast?_concat, List.dropLast_concat, beq_self_eq_true]
      exact .inr hfront

/-- An identifier has no line feed in it. -/
theorem IsIdentifier.lineFeed_notMem {name : String} (h : IsIdentifier name) : '\n' ∉ name.toList := by
  obtain ⟨c, rest, heq, hc, hrest⟩ := h
  rw [heq]
  intro hmem
  rcases List.mem_cons.1 hmem with rfl | hmem
  · exact not_isWordChar_lineFeed (.inl hc)
  · exact not_isWordChar_lineFeed (hrest _ hmem)

/-- What has a line feed behind it has a line feed in it. -/
theorem IsIdentifierLine.lineFeed_mem {name : String} (h : IsIdentifierLine name) : '\n' ∈ name.toList := by
  obtain ⟨identifier, -, rfl⟩ := h
  rw [String.toList_append]
  exact List.mem_append_right _ (by decide)

/-- The identifiers are the plain names without a line feed. -/
theorem isIdentifier_iff {name : String} :
    IsIdentifier name ↔ isPlain name.toList = true ∧ '\n' ∉ name.toList := by
  rw [isPlain_iff]
  refine ⟨fun h => ⟨.inl h, h.lineFeed_notMem⟩, fun ⟨h, hnone⟩ => ?_⟩
  exact h.resolve_right fun hline => hnone hline.lineFeed_mem

/-- The other plain names have a line feed. -/
theorem isIdentifierLine_iff {name : String} :
    IsIdentifierLine name ↔ isPlain name.toList = true ∧ '\n' ∈ name.toList := by
  rw [isPlain_iff]
  refine ⟨fun h => ⟨.inr h, h.lineFeed_mem⟩, fun ⟨h, hsome⟩ => ?_⟩
  exact h.resolve_left fun hidentifier => hidentifier.lineFeed_notMem hsome

instance (name : String) : Decidable (IsIdentifier name) :=
  decidable_of_iff _ isIdentifier_iff.symm

instance (name : String) : Decidable (IsIdentifierLine name) :=
  decidable_of_iff _ isIdentifierLine_iff.symm

/-! ## Legal tokens -/

section Token

variable {mark : String} {m : Char} (hmark : mark.toList = [m])
include hmark

/-- A mark and an identifier behind it are a legal placeholder. -/
theorem isLegal_of_isIdentifier {name : String} (h : IsIdentifier name) : IsLegal m (mark ++ name) := by
  obtain ⟨c, rest, heq, hc, hrest⟩ := h
  refine ⟨c :: rest, ?_, List.cons_ne_nil _ _, List.forall_mem_cons.2 ⟨.inl hc, hrest⟩⟩
  rw [String.toList_append, hmark, heq]
  rfl

/-- A mark and a numbered token behind it are a legal placeholder. -/
theorem isLegal_numbered (i : Nat) : IsLegal m (mark ++ ("_f" ++ toString i)) := by
  refine ⟨'_' :: 'f' :: Nat.toDigits 10 i, ?_, List.cons_ne_nil _ _, ?_⟩
  · rw [String.toList_append, hmark, toList_numbered]
    rfl
  · simp only [List.forall_mem_cons, ← isTokenChar_iff]
    refine ⟨by decide, by decide, fun d hd => isTokenChar_of_isDigit ?_⟩
    exact Nat.isDigit_of_mem_toDigits (by decide) (by decide) hd

/-- A placeholder with a line feed at its end is not legal. -/
theorem not_isLegal_of_isIdentifierLine {name : String} (h : IsIdentifierLine name) :
    ¬ IsLegal m (mark ++ name) := by
  rintro ⟨cs, heq, -, hcs⟩
  rw [String.toList_append, hmark] at heq
  obtain rfl : name.toList = cs := (List.cons.inj heq).2
  exact not_isWordChar_lineFeed (hcs _ h.lineFeed_mem)

/-- A mark and the token of a field behind it are a legal placeholder, unless the name of the field is an
identifier with a line feed behind it. -/
theorem isLegal_token_iff {field : String} {i : Nat} :
    IsLegal m (mark ++ token field i) ↔ ¬ IsIdentifierLine field := by
  rw [token]
  split
  · rename_i hplain
    refine ⟨fun hlegal hline => not_isLegal_of_isIdentifierLine hmark hline hlegal, fun hline => ?_⟩
    exact isLegal_of_isIdentifier hmark ((isPlain_iff.1 hplain).resolve_right hline)
  · rename_i hplain
    exact iff_of_true (isLegal_numbered hmark i) fun hline => hplain (isPlain_iff.2 (.inr hline))

end Token

/-! ## Legal expressions -/

/-- The placeholders of a field are legal, unless its name is an identifier with a line feed behind it. -/
theorem isLegal_tokenOf_iff {mark : String} {m : Char} (hmark : mark.toList = [m]) {fields : List String}
    (hnodup : fields.Nodup) {field : String} (hf : field ∈ fields) :
    IsLegal m (mark ++ tokenOf fields field) ↔ ¬ IsIdentifierLine field := by
  obtain ⟨i, -, hi⟩ := exists_tokenOf_eq hnodup hf
  rw [hi, isLegal_token_iff hmark]

/-- What increments and appends start from has legal placeholders. -/
theorem isLegal_start : IsLegal ':' startZero ∧ IsLegal ':' startEmpty := by
  have hlegal : ∀ t : String, t.toList ≠ [] → t.toList.all isTokenChar = true → IsLegal ':' (":" ++ t) := by
    intro t hne hall
    refine ⟨t.toList, String.toList_append, hne, fun c hc => isTokenChar_iff.1 ?_⟩
    exact List.all_eq_true.1 hall c hc
  exact ⟨hlegal "_start_zero" (by decide) rfl, hlegal "_start_empty" (by decide) rfl⟩

/-- A field of a request has a numbered placeholder exactly if its name is no identifier, with a line feed
behind it or without. -/
theorem exists_get?_numbered_iff {r : Request} (hnodup : r.fields.all.Nodup) {f : String}
    (hf : f ∈ r.fields.all) :
    (∃ i : Nat, (OrderedMap.ofList r.nameEntries).get? ("#_f" ++ toString i) = some f) ↔
      ¬ IsIdentifier f ∧ ¬ IsIdentifierLine f := by
  have hget : ∀ i : Nat, (OrderedMap.ofList r.nameEntries).get? ("#_f" ++ toString i) = some f ↔
      "_f" ++ toString i = r.token f := by
    intro i
    have hmark : "#_f" ++ toString i = "#" ++ ("_f" ++ toString i) := by
      rw [← String.append_assoc]
      rfl
    rw [get?_names_eq_some_iff hnodup, and_iff_right hf, hmark, String.append_right_inj]
  obtain ⟨i, -, hi⟩ := exists_tokenOf_eq hnodup hf
  simp only [hget]
  rw [Request.token, hi, token, ← not_or, ← isPlain_iff]
  split
  · rename_i hplain
    refine iff_of_false ?_ (not_not_intro hplain)
    rintro ⟨j, hj⟩
    exact ne_numbered_of_isPlain hplain j hj.symm
  · rename_i hplain
    exact iff_of_true ⟨i, rfl⟩ hplain

/-- The placeholders of an expression are legal exactly if no field is named like an identifier with a line
feed behind it; and a field has a numbered placeholder exactly if its name is neither that nor an
identifier. -/
theorem compile_isLegal_iff {r : Request} (hfields : r.fields.isEmpty = false)
    (hnodup : r.fields.all.Nodup) :
    ∃ e, compile r.fields r = .ok e ∧
      (e.HasLegalPlaceholders ↔ ∀ f ∈ r.fields.all, ¬ IsIdentifierLine f) ∧
      ∀ f ∈ r.fields.all, (∃ i : Nat, e.names.get? ("#_f" ++ toString i) = some f) ↔
        ¬ IsIdentifier f ∧ ¬ IsIdentifierLine f := by
  have hread := statement_isReadingOf hfields hnodup
  refine ⟨_, compile_eq hfields, ?_, ?_⟩
  · constructor
    · intro hlegal f hf
      have hkey := hlegal.names _ ((mem_keys_names_iff hnodup).2 ⟨f, hf, rfl⟩)
      exact (isLegal_tokenOf_iff rfl hnodup hf).1 hkey
    · intro hline
      have hnames : ∀ k ∈ (OrderedMap.ofList r.nameEntries).keys, IsLegal '#' k := by
        intro k hk
        obtain ⟨f, hf, rfl⟩ := (mem_keys_names_iff hnodup).1 hk
        exact (isLegal_tokenOf_iff rfl hnodup hf).2 (hline f hf)
      have hvalues : ∀ k ∈ (OrderedMap.ofList r.valueEntries).keys, IsLegal ':' k := by
        intro k hk
        rcases (mem_keys_values_iff hnodup).1 hk with ⟨-, rfl⟩ | ⟨-, rfl⟩ | ⟨f, hf, rfl⟩
        · exact isLegal_start.1
        · exact isLegal_start.2
        · have hall := (perm_all r).subset (List.mem_append_left _ hf)
          exact (isLegal_tokenOf_iff rfl hnodup hall).2 (hline f hall)
      constructor
      case names => exact hnames
      case values => exact hvalues
      case names_text => exact fun k hk => hnames k ((mem_namePlaceholders_iff hnodup hread).1 hk)
      case values_text => exact fun k hk => hvalues k ((mem_valuePlaceholders_iff hnodup hread).1 hk)
  · exact fun f hf => exists_get?_numbered_iff hnodup hf

/-- A request that assigns two fields. -/
def spaced : Request where
  key := ⟨.text "person" (by decide), .int 1⟩
  assign := .ofList [("status", .text "open"), ("first name", .text "Ada")]
  remove := []
  increment := .empty
  append := .empty
  named := by decide

/-- A field that is named by two words has a number, and all placeholders are legal. -/
theorem compile_isLegal_spaced :
    ∃ e, compile spaced.fields spaced = .ok e ∧ e.HasLegalPlaceholders ∧
      ∃ i : Nat, e.names.get? ("#_f" ++ toString i) = some "first name" := by
  obtain ⟨e, he, hlegal, hnumbered⟩ := compile_isLegal_iff (r := spaced) (by decide) (by decide)
  exact ⟨e, he, hlegal.2 (by decide), (hnumbered "first name" (by decide)).2 (by decide)⟩

/-- A request that assigns a field with a line feed behind its name. -/
def broken : Request where
  key := ⟨.text "person" (by decide), .int 1⟩
  assign := .ofList [("status\n", .text "open")]
  remove := []
  increment := .empty
  append := .empty
  named := by decide

/-- A field with a line feed behind its name, which is no identifier, has no number, and the line feed is in
its placeholders. -/
theorem not_isLegal_broken :
    ¬ IsIdentifier "status\n" ∧ ∃ e, compile broken.fields broken = .ok e ∧
      e.text = "SET #status\n = :status\n" ∧
      (∀ i : Nat, e.names.get? ("#_f" ++ toString i) ≠ some "status\n") ∧
      ("#status\n" ∈ e.names.keys ∧ ¬ IsLegal '#' "#status\n") ∧
      (":status\n" ∈ e.values.keys ∧ ¬ IsLegal ':' ":status\n") := by
  have hline : IsIdentifierLine "status\n" := by decide
  refine ⟨by decide, _, compile_eq (by decide), rfl, ?_, ⟨by decide, ?_⟩, by decide, ?_⟩
  · exact fun i hi => ((exists_get?_numbered_iff (by decide) (by decide)).1 ⟨i, hi⟩).2 hline
  · exact not_isLegal_of_isIdentifierLine (rfl : "#".toList = ['#']) hline
  · exact not_isLegal_of_isIdentifierLine (rfl : ":".toList = [':']) hline

end Amend.Expression
