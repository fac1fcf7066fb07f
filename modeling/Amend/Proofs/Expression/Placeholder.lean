import Amend.Proofs.Expression.Compiled
import Amend.Update

/-!
# Placeholders of expressions

The store refuses an update whose text has a placeholder that stands for nothing, and also one whose maps
hold a placeholder that the text does not have. Text and maps are built side by side, so it has to be shown
that no entry overwrites another, and that what goes into the text goes into the maps and the other way
round. `Expression.ClosedFor` puts together what the placeholders of an expression are to be to a request,
and `Expression.compile_closedFor` says that they are, whatever the names of the fields.

The text enters by its statement only: its placeholders are read off the lexemes of what it says
(`mem_lexemes_iff`), and the maps are known by the keys of their entries (`mem_keys_values_iff`).
-/

namespace Amend

namespace Expression

/-! ## Placeholders of a text -/

/-- The placeholders of names in a text. -/
def namePlaceholders (text : String) : List String :=
  (Lexeme.ofText text).filterMap fun
    | .name t => some ("#" ++ t)
    | _ => none

/-- The placeholders of values in a text. -/
def valuePlaceholders (text : String) : List String :=
  (Lexeme.ofText text).filterMap fun
    | .value t => some (":" ++ t)
    | _ => none

/-- The placeholders of names in a text are its lexemes of that kind. -/
theorem mem_namePlaceholders {text k : String} :
    k ∈ namePlaceholders text ↔ ∃ t, Lexeme.name t ∈ Lexeme.ofText text ∧ "#" ++ t = k := by
  rw [namePlaceholders, List.mem_filterMap]
  constructor
  · rintro ⟨l, hl, hk⟩
    cases l with
    | name t => exact ⟨t, hl, Option.some.inj hk⟩
    | _ => cases hk
  · rintro ⟨t, ht, rfl⟩
    exact ⟨_, ht, rfl⟩

/-- The placeholders of values in a text are its lexemes of that kind. -/
theorem mem_valuePlaceholders {text k : String} :
    k ∈ valuePlaceholders text ↔ ∃ t, Lexeme.value t ∈ Lexeme.ofText text ∧ ":" ++ t = k := by
  rw [valuePlaceholders, List.mem_filterMap]
  constructor
  · rintro ⟨l, hl, hk⟩
    cases l with
    | value t => exact ⟨t, hl, Option.some.inj hk⟩
    | _ => cases hk
  · rintro ⟨t, ht, rfl⟩
    exact ⟨_, ht, rfl⟩

/-! ## Placeholders of a statement -/

/-- The fields that a statement sets or removes, by their tokens. -/
def Statement.targets (s : Statement) : List String :=
  s.assignments.map Assignment.target ++ s.removals

/-- A lexeme of a row that is no comma belongs to one of the things in the row. -/
theorem mem_rowLexemes_iff {α : Type} {spell : α → List Lexeme} {l : Lexeme} (hl : l ≠ .comma)
    (xs : List α) : l ∈ rowLexemes spell xs ↔ ∃ x ∈ xs, l ∈ spell x := by
  induction xs with
  | nil => simp [rowLexemes]
  | cons x rest ih =>
    cases rest with
    | nil => simp [rowLexemes]
    | cons y rest =>
      have hrow : rowLexemes spell (x :: y :: rest) = spell x ++ [.comma] ++ rowLexemes spell (y :: rest) := by
        rw [rowLexemes, List.map_cons, List.map_cons, List.intercalate_cons_cons]
        rfl
      rw [hrow, List.mem_append, List.mem_append, ih, List.mem_singleton]
      simp only [hl, or_false, List.exists_mem_cons_iff]

/-- A lexeme of a clause that is neither a comma nor the word of the clause belongs to one of the things in
it. -/
theorem mem_clauseLexemes_iff {α : Type} {word : String} {spell : α → List Lexeme} {l : Lexeme}
    (hl : l ≠ .comma) (hw : l ≠ .word word) (xs : List α) :
    l ∈ clauseLexemes word spell xs ↔ ∃ x ∈ xs, l ∈ spell x := by
  rw [clauseLexemes]
  split
  · rename_i h
    simp [List.isEmpty_iff.1 h]
  · rw [List.mem_cons, mem_rowLexemes_iff hl]
    exact or_iff_right hw

section Request

variable {r : Request}

/-- A placeholder in what an expression says of a request is in what it says of one of the fields. -/
theorem mem_lexemes_iff {l : Lexeme} (hl : l ≠ .comma) (hw : ∀ w, l ≠ .word w) :
    l ∈ r.statement.lexemes ↔
      (∃ f ∈ r.assign.keys, l ∈ (Assignment.assign (r.token f)).lexemes) ∨
      (∃ f ∈ r.increment.keys, l ∈ (Assignment.increment (r.token f)).lexemes) ∨
      (∃ f ∈ r.append.keys, l ∈ (Assignment.append (r.token f)).lexemes) ∨
      ∃ f ∈ r.remove, l = .name (r.token f) := by
  rw [Statement.lexemes, List.mem_append, mem_clauseLexemes_iff hl (hw _), mem_clauseLexemes_iff hl (hw _)]
  simp only [Request.statement, List.mem_append, List.mem_map, or_and_right, exists_or, or_assoc,
    exists_exists_and_eq_and, removalLexemes, List.mem_singleton]

/-- The names in what an expression says of a request are the tokens of its fields. -/
theorem name_mem_lexemes_iff {t : String} :
    Lexeme.name t ∈ r.statement.lexemes ↔ ∃ f ∈ r.fields.all, t = r.token f := by
  have hassign : ∀ f, Lexeme.name t ∈ (Assignment.assign (r.token f)).lexemes ↔ t = r.token f := by
    simp [Assignment.lexemes, Assignment.assign, Source.lexemes, Operand.lexemes]
  have hincrement : ∀ f, Lexeme.name t ∈ (Assignment.increment (r.token f)).lexemes ↔ t = r.token f := by
    simp [Assignment.lexemes, Assignment.increment, Source.lexemes, Operand.lexemes]
  have happend : ∀ f, Lexeme.name t ∈ (Assignment.append (r.token f)).lexemes ↔ t = r.token f := by
    simp [Assignment.lexemes, Assignment.append, Source.lexemes, Operand.lexemes]
  rw [mem_lexemes_iff (by simp) (by simp)]
  simp only [hassign, hincrement, happend, Lexeme.name.injEq, ← (perm_all r).mem_iff, Request.written,
    List.map_append, List.mem_append, or_and_right, exists_or, or_assoc]
  rfl

/-- The values in what an expression says of a request are the tokens of the fields that have values, and
those that increments and appends start from. -/
theorem value_mem_lexemes_iff {t : String} :
    Lexeme.value t ∈ r.statement.lexemes ↔
      (r.increment.keys ≠ [] ∧ t = "_start_zero") ∨ (r.append.keys ≠ [] ∧ t = "_start_empty") ∨
        ∃ f ∈ r.written.map Prod.fst, t = r.token f := by
  have hassign : ∀ f, Lexeme.value t ∈ (Assignment.assign (r.token f)).lexemes ↔ t = r.token f := by
    simp [Assignment.lexemes, Assignment.assign, Source.lexemes, Operand.lexemes]
  have hincrement : ∀ f, Lexeme.value t ∈ (Assignment.increment (r.token f)).lexemes ↔
      t = "_start_zero" ∨ t = r.token f := by
    simp [Assignment.lexemes, Assignment.increment, Source.lexemes, Operand.lexemes]
  have happend : ∀ f, Lexeme.value t ∈ (Assignment.append (r.token f)).lexemes ↔
      t = "_start_empty" ∨ t = r.token f := by
    simp [Assignment.lexemes, Assignment.append, Source.lexemes, Operand.lexemes]
  have hstart : ∀ (fs : List String) (start : String), (∃ f ∈ fs, t = start ∨ t = r.token f) ↔
      (fs ≠ [] ∧ t = start) ∨ ∃ f ∈ fs, t = r.token f := by
    intro fs start
    cases fs with
    | nil => simp
    | cons f rest => simp [and_or_left, exists_or]
  have hwritten : (∃ f ∈ r.written.map Prod.fst, t = r.token f) ↔ (∃ f ∈ r.assign.keys, t = r.token f) ∨
      (∃ f ∈ r.increment.keys, t = r.token f) ∨ ∃ f ∈ r.append.keys, t = r.token f := by
    simp only [Request.written, List.map_append, List.mem_append, or_and_right, exists_or]
    rfl
  rw [mem_lexemes_iff (by simp) (by simp), hwritten]
  simp only [hassign, hincrement, happend, hstart, reduceCtorEq, and_false, exists_false, or_false]
  constructor
  · rintro (h | (h | h) | h | h)
    · exact .inr (.inr (.inl h))
    · exact .inl h
    · exact .inr (.inr (.inr (.inl h)))
    · exact .inr (.inl h)
    · exact .inr (.inr (.inr (.inr h)))
  · rintro (h | h | h | h | h)
    · exact .inr (.inl (.inl h))
    · exact .inr (.inr (.inl h))
    · exact .inl h
    · exact .inr (.inl (.inr h))
    · exact .inr (.inr (.inr h))

/-! ## Keys of the maps -/

/-- The keys of the map of names are the placeholders of the fields. -/
theorem mem_keys_names_iff (hnodup : r.fields.all.Nodup) {k : String} :
    k ∈ (OrderedMap.ofList r.nameEntries).keys ↔ ∃ f ∈ r.fields.all, k = "#" ++ r.token f := by
  rw [OrderedMap.keys_ofList (nodup_nameEntries hnodup), Request.nameEntries, List.map_map, List.mem_map]
  simp only [(perm_all r).mem_iff, Function.comp_apply, eq_comm]

/-- A placeholder stands for a field exactly if it is that of the field. -/
theorem get?_names_eq_some_iff (hnodup : r.fields.all.Nodup) {k f : String} :
    (OrderedMap.ofList r.nameEntries).get? k = some f ↔ f ∈ r.fields.all ∧ k = "#" ++ r.token f := by
  rw [OrderedMap.get?_ofList (nodup_nameEntries hnodup), Request.nameEntries, List.mem_map]
  simp only [(perm_all r).mem_iff, Prod.mk.injEq]
  constructor
  · rintro ⟨g, hg, rfl, rfl⟩
    exact ⟨hg, rfl⟩
  · rintro ⟨hf, rfl⟩
    exact ⟨f, hf, rfl, rfl⟩

/-- The keys of the map of values are the placeholders of the fields that have values, and those that
increments and appends start from. -/
theorem mem_keys_values_iff (hnodup : r.fields.all.Nodup) {k : String} :
    k ∈ (OrderedMap.ofList r.valueEntries).keys ↔
      (r.increment.keys ≠ [] ∧ k = startZero) ∨ (r.append.keys ≠ [] ∧ k = startEmpty) ∨
        ∃ f ∈ r.written.map Prod.fst, k = ":" ++ r.token f := by
  have hzero : k ∈ r.zeroEntries.map Prod.fst ↔ r.increment.keys ≠ [] ∧ k = startZero := by
    rw [Request.zeroEntries]
    split <;> simp_all
  have hempty : k ∈ r.emptyEntries.map Prod.fst ↔ r.append.keys ≠ [] ∧ k = startEmpty := by
    rw [Request.emptyEntries]
    split <;> simp_all
  have hplaced : k ∈ (r.placed r.written).map Prod.fst ↔
      ∃ f ∈ r.written.map Prod.fst, k = ":" ++ r.token f := by
    simp [Request.placed, eq_comm]
  rw [OrderedMap.keys_ofList (nodup_valueEntries hnodup), ((perm_valueEntries r).map Prod.fst).mem_iff,
    List.map_append, List.map_append, List.mem_append, List.mem_append, hzero, hempty, hplaced, or_assoc]

/-- The placeholders of names in a text that says the statement of a request are the keys of the map of
names. -/
theorem mem_namePlaceholders_iff (hnodup : r.fields.all.Nodup) {text : String}
    (hread : r.statement.IsReadingOf text) {k : String} :
    k ∈ namePlaceholders text ↔ k ∈ (OrderedMap.ofList r.nameEntries).keys := by
  rw [mem_namePlaceholders, hread.2, mem_keys_names_iff hnodup]
  simp only [name_mem_lexemes_iff]
  constructor
  · rintro ⟨_, ⟨f, hf, rfl⟩, rfl⟩
    exact ⟨f, hf, rfl⟩
  · rintro ⟨f, hf, rfl⟩
    exact ⟨_, ⟨f, hf, rfl⟩, rfl⟩

/-- The placeholders of values in a text that says the statement of a request are the keys of the map of
values. -/
theorem mem_valuePlaceholders_iff (hnodup : r.fields.all.Nodup) {text : String}
    (hread : r.statement.IsReadingOf text) {k : String} :
    k ∈ valuePlaceholders text ↔ k ∈ (OrderedMap.ofList r.valueEntries).keys := by
  rw [mem_valuePlaceholders, hread.2, mem_keys_values_iff hnodup]
  simp only [value_mem_lexemes_iff]
  constructor
  · rintro ⟨_, ⟨hne, rfl⟩ | ⟨hne, rfl⟩ | ⟨f, hf, rfl⟩, rfl⟩
    · exact .inl ⟨hne, rfl⟩
    · exact .inr (.inl ⟨hne, rfl⟩)
    · exact .inr (.inr ⟨f, hf, rfl⟩)
  · rintro (⟨hne, rfl⟩ | ⟨hne, rfl⟩ | ⟨f, hf, rfl⟩)
    · exact ⟨_, .inl ⟨hne, rfl⟩, rfl⟩
    · exact ⟨_, .inr (.inl ⟨hne, rfl⟩), rfl⟩
    · exact ⟨_, .inr (.inr ⟨f, hf, rfl⟩), rfl⟩

/-- What the fields of a bucket start from is known exactly if there are any, if its placeholder is there for no
other reason. -/
theorem get?_values_start {start : String} {a : Attribute} {bucket : NameMap Value}
    (hmem : start ∈ (OrderedMap.ofList r.valueEntries).keys → bucket.keys ≠ [])
    (hget : ∀ e ∈ bucket.entries, (OrderedMap.ofList r.valueEntries).get? start = some a) :
    (OrderedMap.ofList r.valueEntries).get? start = if bucket.keys = [] then none else some a := by
  split
  · rename_i hnone
    rw [OrderedMap.get?_eq_none_iff]
    exact fun h => hmem h hnone
  · rename_i hsome
    obtain ⟨f, hf⟩ := List.exists_mem_of_ne_nil _ hsome
    obtain ⟨e, he, -⟩ := List.mem_map.1 hf
    exact hget e he

/-- What increments start from is known exactly if there are any. -/
theorem get?_values_startZero (hnodup : r.fields.all.Nodup) :
    (OrderedMap.ofList r.valueEntries).get? startZero =
      if r.increment.keys = [] then none else some .zero := by
  refine get?_values_start (fun hmem => ?_) fun e he => get?_startZero hnodup he
  rcases (mem_keys_values_iff hnodup).1 hmem with ⟨h, -⟩ | ⟨-, h⟩ | ⟨f, hf, h⟩
  · exact h
  · exact absurd h (by decide)
  · exact absurd h.symm (placeholder_ne_start hnodup ((perm_all r).subset (List.mem_append_left _ hf))).1

/-- What appends start from is known exactly if there are any. -/
theorem get?_values_startEmpty (hnodup : r.fields.all.Nodup) :
    (OrderedMap.ofList r.valueEntries).get? startEmpty =
      if r.append.keys = [] then none else some .emptyList := by
  refine get?_values_start (fun hmem => ?_) fun e he => get?_startEmpty hnodup he
  rcases (mem_keys_values_iff hnodup).1 hmem with ⟨-, h⟩ | ⟨h, -⟩ | ⟨f, hf, h⟩
  · exact absurd h (by decide)
  · exact h
  · exact absurd h.symm (placeholder_ne_start hnodup ((perm_all r).subset (List.mem_append_left _ hf))).2

/-- A field has a value exactly if it is assigned, incremented or appended to. -/
theorem mem_map_fst_written_iff {f : String} :
    f ∈ r.written.map Prod.fst ↔ f ∈ r.assign.keys ∨ f ∈ r.increment.keys ∨ f ∈ r.append.keys := by
  rw [Request.written, List.map_append, List.map_append, List.mem_append, List.mem_append]
  rfl

/-- There is no value exactly if nothing is assigned, incremented or appended. -/
theorem isEmpty_values_iff (hnodup : r.fields.all.Nodup) :
    (OrderedMap.ofList r.valueEntries).isEmpty = true ↔
      r.assign.keys = [] ∧ r.increment.keys = [] ∧ r.append.keys = [] := by
  have hkeys : ∀ bucket : NameMap Value, bucket.keys = [] ↔ bucket.entries = [] :=
    fun bucket => List.map_eq_nil_iff
  have hplaced : ∀ bucket : NameMap Value, r.placed bucket.entries = [] ↔ bucket.keys = [] :=
    fun bucket => List.map_eq_nil_iff.trans (hkeys bucket).symm
  have hzero : r.zeroEntries = [] ↔ r.increment.keys = [] := by simp [Request.zeroEntries]
  have hempty : r.emptyEntries = [] ↔ r.append.keys = [] := by simp [Request.emptyEntries]
  rw [OrderedMap.isEmpty, OrderedMap.entries_ofList (nodup_valueEntries hnodup), List.isEmpty_iff,
    Request.valueEntries]
  simp only [List.append_eq_nil_iff, hplaced, hzero, hempty, and_self_left, and_self]

end Request

/-! ## Closed expressions -/

/-- The placeholders of an expression are neither too few nor too many for a request. -/
structure ClosedFor (e : Expression) (r : Request) : Prop where
  /-- The placeholders of names in the text are those that stand for something. -/
  names_used : ∀ k, k ∈ namePlaceholders e.text ↔ k ∈ e.names.keys
  /-- The placeholders of values in the text are those that stand for something. -/
  values_used : ∀ k, k ∈ valuePlaceholders e.text ↔ k ∈ e.values.keys
  /-- Every name stands for a field of the request. -/
  names_sound : ∀ k f, e.names.get? k = some f → f ∈ r.fields.all
  /-- One name stands for each field of the request. -/
  names_unique : ∀ f ∈ r.fields.all, ∃! k, e.names.get? k = some f
  /-- Each name is set or removed, and only once. -/
  targeted : ∃ s : Statement, s.IsReadingOf e.text ∧
    ∀ k ∈ e.names.keys, (s.targets.map ("#" ++ ·)).count k = 1
  /-- There is a value under the token of a field exactly if the field is assigned, incremented or appended
  to; it is never what increments or appends start from. -/
  field_values : ∀ t f, e.names.get? ("#" ++ t) = some f →
    (":" ++ t ∈ e.values.keys ↔ f ∈ r.assign.keys ∨ f ∈ r.increment.keys ∨ f ∈ r.append.keys) ∧
      ":" ++ t ≠ startZero ∧ ":" ++ t ≠ startEmpty
  /-- There are no other values than those of fields and what increments and appends start from. -/
  values_sound : ∀ k ∈ e.values.keys, k = startZero ∨ k = startEmpty ∨
    ∃ t f, k = ":" ++ t ∧ e.names.get? ("#" ++ t) = some f
  /-- Increments start from zero, if there are any. -/
  zero : e.values.get? startZero = if r.increment.keys = [] then none else some .zero
  /-- Appends start from the empty list, if there are any. -/
  emptyList : e.values.get? startEmpty = if r.append.keys = [] then none else some .emptyList
  /-- An update with the expression submits values exactly if something is assigned, incremented or
  appended. -/
  submitted : ∀ table key condition,
    (Update.mk table key e.text e.names e.values condition).submittedValues? =
      if r.assign.keys = [] ∧ r.increment.keys = [] ∧ r.append.keys = [] then none else some e.values

/-- A request that names a field, and no field twice, is compiled to an expression whose placeholders are
neither too few nor too many. -/
theorem compile_closedFor {r : Request} (hfields : r.fields.isEmpty = false)
    (hnodup : r.fields.all.Nodup) : ∃ e, compile r.fields r = .ok e ∧ e.ClosedFor r := by
  have hread := statement_isReadingOf hfields hnodup
  refine ⟨_, compile_eq hfields, ?_⟩
  constructor
  case names_used => exact fun k => mem_namePlaceholders_iff hnodup hread
  case values_used => exact fun k => mem_valuePlaceholders_iff hnodup hread
  case names_sound => exact fun k f h => ((get?_names_eq_some_iff hnodup).1 h).1
  case names_unique =>
    intro f hf
    refine ⟨_, (get?_names_eq_some_iff hnodup).2 ⟨hf, rfl⟩, fun k hk => ?_⟩
    exact ((get?_names_eq_some_iff hnodup).1 hk).2
  case targeted =>
    refine ⟨r.statement, hread, fun k hk => ?_⟩
    have htargets : r.statement.targets.map ("#" ++ ·) = r.nameEntries.map Prod.fst := by
      simp [Statement.targets, Request.statement, Request.nameEntries, Request.written, OrderedMap.keys,
        Assignment.assign, Assignment.increment, Assignment.append, Function.comp_def]
    have hnames := nodup_nameEntries hnodup
    rw [OrderedMap.keys_ofList hnames] at hk
    rw [htargets, List.count_eq_one_of_mem hnames hk]
  case field_values =>
    intro t f h
    obtain ⟨hf, htoken⟩ := (get?_names_eq_some_iff hnodup).1 h
    obtain rfl := (String.append_right_inj "#").1 htoken
    obtain ⟨hzero, hempty⟩ := placeholder_ne_start hnodup hf
    refine ⟨?_, hzero, hempty⟩
    rw [mem_keys_values_iff hnodup, ← mem_map_fst_written_iff]
    constructor
    · rintro (⟨-, h⟩ | ⟨-, h⟩ | ⟨g, hg, h⟩)
      · exact absurd h hzero
      · exact absurd h hempty
      · have hall := (perm_all r).subset (List.mem_append_left _ hg)
        rwa [tokenOf_injective hnodup hf hall ((String.append_right_inj ":").1 h)]
    · exact fun hf => .inr (.inr ⟨f, hf, rfl⟩)
  case values_sound =>
    intro k hk
    rcases (mem_keys_values_iff hnodup).1 hk with ⟨-, rfl⟩ | ⟨-, rfl⟩ | ⟨f, hf, rfl⟩
    · exact .inl rfl
    · exact .inr (.inl rfl)
    · have hall := (perm_all r).subset (List.mem_append_left _ hf)
      exact .inr (.inr ⟨_, f, rfl, (get?_names_eq_some_iff hnodup).2 ⟨hall, rfl⟩⟩)
  case zero => exact get?_values_startZero hnodup
  case emptyList => exact get?_values_startEmpty hnodup
  case submitted =>
    intro table key condition
    rw [Update.submittedValues?]
    exact if_congr (isEmpty_values_iff hnodup) rfl rfl

/-- A request whose fields are named like tokens, with every action used. -/
def lookalikes : Request where
  key := ⟨.text "atlas" (by decide), .int 7⟩
  assign := .ofList [("_f1", .text "seen")]
  remove := ["_start_empty"]
  increment := .ofList [("_start_zero", .one)]
  append := .ofList [("_f0", .sequence [])]
  named := by decide

/-- Fields that are named like tokens are told from them: each has one name, and what is added to the field
that is named like the start of increments is not what increments start from. -/
theorem compile_closedFor_lookalikes :
    ∃ e, compile lookalikes.fields lookalikes = .ok e ∧
      (∀ f ∈ lookalikes.fields.all, ∃! k, e.names.get? k = some f) ∧
      e.values.get? startZero = some .zero ∧
      ∀ t, e.names.get? ("#" ++ t) = some "_start_zero" →
        ":" ++ t ∈ e.values.keys ∧ ":" ++ t ≠ startZero := by
  obtain ⟨e, he, hclosed⟩ := compile_closedFor (r := lookalikes) (by decide) (by decide)
  refine ⟨e, he, hclosed.names_unique, hclosed.zero, fun t ht => ?_⟩
  obtain ⟨hvalue, hzero, -⟩ := hclosed.field_values t "_start_zero" ht
  exact ⟨hvalue.2 (.inr (.inl (by decide))), hzero⟩

end Expression

end Amend
