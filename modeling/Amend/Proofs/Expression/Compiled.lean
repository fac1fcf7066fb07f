import Amend.Proofs.Expression.Statement
import Amend.Proofs.Expression.Token

/-!
# The compiled expression in closed form

Compilation goes through the buckets of a request one after another and builds text and maps as it goes.
Its outcome depends on nothing but the fields, their tokens and their values, so it is written down here in
one piece: the entries of both maps as lists (`nameEntries`, `valueEntries`), and the statement that the
text says (`statement`). `compile_eq` says that the expression is made of them for every request with a
field, and `statement_isReadingOf` that the text says the statement.

Text and positions follow different orders: positions count assigned, removed, incremented and appended
fields, the text has the removed ones last.
-/

namespace Amend

namespace Expression.Assignment

/-- What an expression says of an assigned field. -/
def assign (t : String) : Assignment := ⟨t, .operand (.value t)⟩

/-- What an expression says of an incremented field. -/
def increment (t : String) : Assignment :=
  ⟨t, .sum (.ifNotExists t (.value "_start_zero")) (.value t)⟩

/-- What an expression says of a field that is appended to. -/
def append (t : String) : Assignment :=
  ⟨t, .operand (.listAppend (.ifNotExists t (.value "_start_empty")) (.value t))⟩

end Expression.Assignment

namespace Request

open Expression

/-- The token of a field of a request. -/
def token (r : Request) (field : String) : String :=
  tokenOf r.fields.all field

/-- The entries with values, in the order in which an expression writes them. -/
def written (r : Request) : List (String × Value) :=
  r.assign.entries ++ (r.increment.entries ++ r.append.entries)

/-- What the placeholders of names stand for, in order. -/
def nameEntries (r : Request) : List (String × String) :=
  (r.written.map Prod.fst ++ r.remove).map fun f => ("#" ++ r.token f, f)

/-- What the placeholders of some values stand for, in order. -/
def placed (r : Request) (es : List (String × Value)) : List (String × Attribute) :=
  es.map fun e => (":" ++ r.token e.1, e.2.toAttribute)

/-- What increments start from, if there are any. -/
def zeroEntries (r : Request) : List (String × Attribute) :=
  if r.increment.keys.isEmpty then [] else [(startZero, .zero)]

/-- What appends start from, if there are any. -/
def emptyEntries (r : Request) : List (String × Attribute) :=
  if r.append.keys.isEmpty then [] else [(startEmpty, .emptyList)]

/-- What the placeholders of values stand for, in order. -/
def valueEntries (r : Request) : List (String × Attribute) :=
  r.placed r.assign.entries ++ (r.zeroEntries ++
    (r.placed r.increment.entries ++ (r.emptyEntries ++ r.placed r.append.entries)))

/-- What the expression of a request says. -/
def statement (r : Request) : Statement where
  assignments :=
    r.assign.keys.map (fun f => .assign (r.token f)) ++
      (r.increment.keys.map (fun f => .increment (r.token f)) ++
        r.append.keys.map fun f => .append (r.token f))
  removals := r.remove.map r.token

/-- The items for some fields of a request. -/
def itemTexts (r : Request) (item : String → String → String) (fs : List String) : List String :=
  fs.map fun f => item ("#" ++ r.token f) (":" ++ r.token f)

/-- The text of the expression of a request. -/
def text (r : Request) : String :=
  " ".intercalate
    (clause "SET" (r.itemTexts assignItem r.assign.keys ++
        (r.itemTexts incrementItem r.increment.keys ++ r.itemTexts appendItem r.append.keys)) ++
      clause "REMOVE" (r.remove.map fun f => "#" ++ r.token f))

end Request

namespace Expression

/-! ## Drafts -/

/-- The draft with these items, and with maps of these entries. -/
def Draft.of (items : List String) (names : List (String × String)) (values : List (String × Attribute)) :
    Draft :=
  ⟨items, .ofList names, .ofList values⟩

variable {items : List String} {names : List (String × String)} {values : List (String × Attribute)}

/-- Defining a value placeholder adds an entry, and does nothing where there is no need for it. -/
theorem Draft.define_of (unused : Bool) (placeholder : String) (a : Attribute) :
    (if unused then Draft.of items names values else (Draft.of items names values).define placeholder a) =
      Draft.of items names (values ++ if unused then [] else [(placeholder, a)]) := by
  cases unused with
  | true => simp
  | false =>
    show Draft.mk _ _ ((OrderedMap.ofList values).insert placeholder a) = Draft.mk _ _ _
    rw [if_neg (by simp), ← OrderedMap.foldl_insert_ofList]
    rfl

/-- Adding a field adds an item and an entry to each of the maps. -/
theorem Draft.add_of (item : String → String → String) (field token : String) (v : Value) :
    (Draft.of items names values).add item field token v =
      Draft.of (items ++ [item ("#" ++ token) (":" ++ token)]) (names ++ [("#" ++ token, field)])
        (values ++ [(":" ++ token, v.toAttribute)]) := by
  show Draft.mk _ ((OrderedMap.ofList names).insert _ _) ((OrderedMap.ofList values).insert _ _) =
    Draft.mk _ _ _
  rw [← OrderedMap.foldl_insert_ofList, ← OrderedMap.foldl_insert_ofList]
  rfl

/-- Adding some entries of a bucket adds an item and entries for each of them. -/
theorem addAll_of (item : String → String → String) (fields : List String) {bucket : NameMap Value}
    {es : List (String × Value)} (h : ∀ e ∈ es, bucket.get? e.1 = some e.2) :
    Draft.addAll item (tokens fields) bucket (es.map Prod.fst) (Draft.of items names values) =
      .ok (Draft.of
        (items ++ (es.map Prod.fst).map fun f => item ("#" ++ tokenOf fields f) (":" ++ tokenOf fields f))
        (names ++ (es.map Prod.fst).map fun f => ("#" ++ tokenOf fields f, f))
        (values ++ es.map fun e => (":" ++ tokenOf fields e.1, e.2.toAttribute))) := by
  induction es generalizing items names values with
  | nil => simp [Draft.addAll]
  | cons e rest ih =>
    have hv : valueIn bucket e.1 = .ok e.2 := by rw [valueIn, h e (by simp)]
    rw [List.map_cons, Draft.addAll, hv]
    show Draft.addAll item (tokens fields) bucket (rest.map Prod.fst) _ = _
    rw [Draft.add_of, ih fun e he => h e (by simp [he])]
    simp [tokenOf]

/-- Adding a whole bucket. -/
theorem addAll_keys (item : String → String → String) (fields : List String) (bucket : NameMap Value) :
    Draft.addAll item (tokens fields) bucket bucket.keys (Draft.of items names values) =
      .ok (Draft.of
        (items ++ bucket.keys.map fun f => item ("#" ++ tokenOf fields f) (":" ++ tokenOf fields f))
        (names ++ bucket.keys.map fun f => ("#" ++ tokenOf fields f, f))
        (values ++ bucket.entries.map fun e => (":" ++ tokenOf fields e.1, e.2.toAttribute))) :=
  addAll_of item fields fun _ he => OrderedMap.get?_eq_some_iff.2 he

/-! ## The expression -/

/-- A request with a field is compiled, and to this. -/
theorem compile_eq {r : Request} (h : r.fields.isEmpty = false) :
    compile r.fields r = .ok ⟨r.text, .ofList r.nameEntries, .ofList r.valueEntries⟩ := by
  rw [compile, if_neg (by simp [h])]
  show orFault (do
    let d ← Draft.addAll assignItem (tokens r.fields.all) r.assign r.assign.keys (Draft.of [] [] [])
    let d ← Draft.addAll incrementItem (tokens r.fields.all) r.increment r.increment.keys
      (if r.increment.keys.isEmpty then d else d.define startZero .zero)
    let d ← Draft.addAll appendItem (tokens r.fields.all) r.append r.append.keys
      (if r.append.keys.isEmpty then d else d.define startEmpty .emptyList)
    let removed := r.remove.map fun f => ("#" ++ r.token f, f)
    return Expression.mk (" ".intercalate (clause "SET" d.items ++ clause "REMOVE" (removed.map Prod.fst)))
      (removed.foldl (fun m e => m.insert e.1 e.2) d.names) d.values) = _
  have hbind : ∀ (d : Draft) (f : Draft → Except Fault Expression), (Except.ok d >>= f) = f d :=
    fun _ _ => rfl
  simp only [addAll_keys, hbind, Draft.define_of]
  have hnames : r.nameEntries = (r.assign.keys ++ (r.increment.keys ++ (r.append.keys ++ r.remove))).map
      fun f => ("#" ++ r.token f, f) := by
    simp [Request.nameEntries, Request.written, OrderedMap.keys]
  have hremoved : (r.remove.map fun f => ("#" ++ r.token f, f)).map Prod.fst =
      r.remove.map fun f => "#" ++ r.token f := by
    rw [List.map_map]
    rfl
  simp only [Draft.of, OrderedMap.foldl_insert_ofList, hremoved, hnames, List.nil_append,
    List.append_assoc, List.map_append]
  rfl

/-! ## What placeholders stand for -/

/-- The entries of a request name its fields, those that are removed apart. -/
theorem perm_all (r : Request) : (r.written.map Prod.fst ++ r.remove).Perm r.fields.all := by
  rw [Fields.all_eq, Request.written, List.map_append, List.map_append, List.append_assoc]
  exact List.Perm.append_left _ List.perm_append_comm

/-- A field of an entry is one of the request. -/
theorem mem_all_of_mem_written {r : Request} {e : String × Value} (he : e ∈ r.written) :
    e.1 ∈ r.fields.all :=
  (perm_all r).subset (List.mem_append_left _ (List.mem_map_of_mem he))

/-- The entries of values are those that increments and appends start from and those of fields. -/
theorem perm_valueEntries (r : Request) :
    r.valueEntries.Perm ((r.zeroEntries ++ r.emptyEntries) ++ r.placed r.written) := by
  have hplaced : r.placed r.written =
      r.placed r.assign.entries ++ (r.placed r.increment.entries ++ r.placed r.append.entries) := by
    rw [Request.written, Request.placed, List.map_append, List.map_append]
    rfl
  rw [hplaced, List.append_assoc]
  refine (List.perm_append_comm_assoc _ _ _).trans (List.Perm.append_left _ ?_)
  exact (List.Perm.append_left _ (List.perm_append_comm_assoc _ _ _)).trans
    (List.perm_append_comm_assoc _ _ _)

section Placeholders

variable {r : Request} (hnodup : r.fields.all.Nodup)
include hnodup

/-- No two names share a placeholder. -/
theorem nodup_nameEntries : (r.nameEntries.map Prod.fst).Nodup := by
  rw [Request.nameEntries, List.map_map]
  exact nodup_map_placeholder hnodup (fun g hg => (perm_all r).subset hg)
    ((perm_all r).nodup_iff.2 hnodup) "#"

/-- The placeholder of a field stands for the field. -/
theorem get?_nameEntries {f : String} (hf : f ∈ r.fields.all) :
    (OrderedMap.ofList r.nameEntries).get? ("#" ++ r.token f) = some f := by
  rw [OrderedMap.get?_ofList (nodup_nameEntries hnodup), Request.nameEntries]
  exact List.mem_map_of_mem ((perm_all r).symm.subset hf)

/-- The placeholder of a value of a field is never what increments or appends start from. -/
theorem placeholder_ne_start {f : String} (hf : f ∈ r.fields.all) :
    ":" ++ r.token f ≠ startZero ∧ ":" ++ r.token f ≠ startEmpty := by
  obtain ⟨i, -, hi⟩ := exists_tokenOf_eq hnodup hf
  rw [Request.token, hi]
  exact token_ne_start f i

/-- No two values share a placeholder. -/
theorem nodup_valueEntries : (r.valueEntries.map Prod.fst).Nodup := by
  rw [((perm_valueEntries r).map Prod.fst).nodup_iff, List.map_append, List.nodup_append]
  have hplaced : (r.placed r.written).map Prod.fst =
      (r.written.map Prod.fst).map fun f => ":" ++ r.token f := by
    rw [Request.placed, List.map_map, List.map_map]
    rfl
  rw [hplaced]
  refine ⟨?_, ?_, ?_⟩
  · rw [Request.zeroEntries, Request.emptyEntries]
    split <;> split <;> decide
  · exact nodup_map_placeholder hnodup
      (fun g hg => (perm_all r).subset (List.mem_append_left _ hg))
      (List.nodup_append.1 ((perm_all r).nodup_iff.2 hnodup)).1 ":"
  · rintro start hstart placeholder hmem rfl
    obtain ⟨f, hf, rfl⟩ := List.mem_map.1 hmem
    obtain ⟨hzero, hempty⟩ :=
      placeholder_ne_start hnodup ((perm_all r).subset (List.mem_append_left _ hf))
    simp only [Request.zeroEntries, Request.emptyEntries, List.map_append, List.mem_append] at hstart
    rcases hstart with h | h <;> split at h
    · cases h
    · exact hzero (List.mem_singleton.1 h)
    · cases h
    · exact hempty (List.mem_singleton.1 h)

/-- The placeholder of a value stands for the value. -/
theorem get?_valueEntries {e : String × Value} (he : e ∈ r.written) :
    (OrderedMap.ofList r.valueEntries).get? (":" ++ r.token e.1) = some e.2.toAttribute := by
  rw [OrderedMap.get?_ofList (nodup_valueEntries hnodup), (perm_valueEntries r).mem_iff]
  exact List.mem_append_right _ (List.mem_map_of_mem he)

/-- Where a field is incremented, it is known what increments start from. -/
theorem get?_startZero {e : String × Value} (he : e ∈ r.increment.entries) :
    (OrderedMap.ofList r.valueEntries).get? startZero = some .zero := by
  have hne : r.increment.keys.isEmpty = false := by
    rw [List.isEmpty_eq_false_iff_exists_mem]
    exact ⟨e.1, List.mem_map_of_mem he⟩
  rw [OrderedMap.get?_ofList (nodup_valueEntries hnodup), (perm_valueEntries r).mem_iff,
    Request.zeroEntries, hne]
  simp

/-- Where a field is appended to, it is known what appends start from. -/
theorem get?_startEmpty {e : String × Value} (he : e ∈ r.append.entries) :
    (OrderedMap.ofList r.valueEntries).get? startEmpty = some .emptyList := by
  have hne : r.append.keys.isEmpty = false := by
    rw [List.isEmpty_eq_false_iff_exists_mem]
    exact ⟨e.1, List.mem_map_of_mem he⟩
  rw [OrderedMap.get?_ofList (nodup_valueEntries hnodup), (perm_valueEntries r).mem_iff,
    Request.emptyEntries, hne]
  simp

end Placeholders

/-! ## The text -/

/-- A clause is scanned into its word and its items. -/
theorem ofText_clause {word : String} (h : Lexeme.Spells word (.word word)) (texts : List String) :
    ((clause word texts).map Lexeme.ofText).flatten = clauseLexemes word Lexeme.ofText texts := by
  rw [clause, clauseLexemes]
  cases texts with
  | nil => rfl
  | cons t rest =>
    rw [if_neg (by simp), if_neg (by simp), List.map_singleton, List.flatten_singleton]
    have htext : (word ++ " " ++ ", ".intercalate (t :: rest)).toList =
        word.toList ++ ' ' :: (", ".intercalate (t :: rest)).toList := by
      simp [String.toList_append]
    rw [Lexeme.ofText, htext, h.scan_append (c := ' ') rfl]
    exact congrArg (Lexeme.word word :: ·) (Lexeme.ofText_intercalate (t :: rest))

/-- The text of an expression is scanned clause by clause. -/
theorem ofText_clauses (items removed : List String) :
    Lexeme.ofText (" ".intercalate (clause "SET" items ++ clause "REMOVE" removed)) =
      clauseLexemes "SET" Lexeme.ofText items ++ clauseLexemes "REMOVE" Lexeme.ofText removed := by
  rw [Lexeme.ofText_intercalate_space, List.map_append, List.flatten_append,
    ofText_clause (Lexeme.spells_keyword (by simp [Lexeme.keywords])),
    ofText_clause (Lexeme.spells_keyword (by simp [Lexeme.keywords]))]

section Items

variable {t : String} (ht : ∀ c ∈ t.toList, Lexeme.delimiter? c = none)
include ht

/-- An item that assigns a field says so. -/
theorem ofText_assignItem :
    Lexeme.ofText (assignItem ("#" ++ t) (":" ++ t)) = (Assignment.assign t).lexemes := by
  have hchars : (assignItem ("#" ++ t) (":" ++ t)).toList =
      ("#" ++ t).toList ++ ' ' :: ("=".toList ++ ' ' :: (":" ++ t).toList) := by
    simp [assignItem, String.toList_append]
  have heq : Lexeme.Spells "=" (.word "=") := Lexeme.spells_keyword (by simp [Lexeme.keywords])
  rw [Lexeme.ofText, hchars, (Lexeme.spells_name ht).scan_append (c := ' ') rfl,
    heq.scan_append (c := ' ') rfl]
  exact congrArg (fun ls => Lexeme.name t :: .word "=" :: ls) (Lexeme.spells_value ht).ofText_eq

/-- An item that increments a field says so. -/
theorem ofText_incrementItem :
    Lexeme.ofText (incrementItem ("#" ++ t) (":" ++ t)) = (Assignment.increment t).lexemes := by
  have hchars : (incrementItem ("#" ++ t) (":" ++ t)).toList =
      ("#" ++ t).toList ++ ' ' :: ("=".toList ++ ' ' :: ("if_not_exists".toList ++ '(' ::
        (("#" ++ t).toList ++ ',' :: ([] ++ ' ' :: (startZero.toList ++ ')' :: ([] ++ ' ' ::
          ("+".toList ++ ' ' :: (":" ++ t).toList))))))) := by
    simp [incrementItem, String.toList_append]
  have heq : Lexeme.Spells "=" (.word "=") := Lexeme.spells_keyword (by simp [Lexeme.keywords])
  have hplus : Lexeme.Spells "+" (.word "+") := Lexeme.spells_keyword (by simp [Lexeme.keywords])
  have hcall : Lexeme.Spells "if_not_exists" (.word "if_not_exists") := Lexeme.spells_keyword (by simp [Lexeme.keywords])
  have hstart : Lexeme.Spells startZero (.value "_start_zero") :=
    ⟨by simp [startZero, Lexeme.delimiter?], rfl⟩
  rw [Lexeme.ofText, hchars, (Lexeme.spells_name ht).scan_append (c := ' ') rfl,
    heq.scan_append (c := ' ') rfl, hcall.scan_append (c := '(') rfl,
    (Lexeme.spells_name ht).scan_append (c := ',') rfl, Lexeme.scan_append_delimiter (c := ' ') rfl,
    hstart.scan_append (c := ')') rfl, Lexeme.scan_append_delimiter (c := ' ') rfl,
    hplus.scan_append (c := ' ') rfl]
  have hvalue := (Lexeme.spells_value ht).ofText_eq
  rw [Lexeme.ofText] at hvalue
  rw [hvalue]
  rfl

/-- An item that appends to a field says so. -/
theorem ofText_appendItem :
    Lexeme.ofText (appendItem ("#" ++ t) (":" ++ t)) = (Assignment.append t).lexemes := by
  have hchars : (appendItem ("#" ++ t) (":" ++ t)).toList =
      ("#" ++ t).toList ++ ' ' :: ("=".toList ++ ' ' :: ("list_append".toList ++ '(' ::
        ("if_not_exists".toList ++ '(' :: (("#" ++ t).toList ++ ',' :: ([] ++ ' ' ::
          (startEmpty.toList ++ ')' :: ([] ++ ',' :: ([] ++ ' ' :: ((":" ++ t).toList ++
            ')' :: []))))))))) := by
    simp [appendItem, String.toList_append]
  have heq : Lexeme.Spells "=" (.word "=") := Lexeme.spells_keyword (by simp [Lexeme.keywords])
  have hlist : Lexeme.Spells "list_append" (.word "list_append") := Lexeme.spells_keyword (by simp [Lexeme.keywords])
  have hcall : Lexeme.Spells "if_not_exists" (.word "if_not_exists") := Lexeme.spells_keyword (by simp [Lexeme.keywords])
  have hstart : Lexeme.Spells startEmpty (.value "_start_empty") :=
    ⟨by simp [startEmpty, Lexeme.delimiter?], rfl⟩
  rw [Lexeme.ofText, hchars, (Lexeme.spells_name ht).scan_append (c := ' ') rfl,
    heq.scan_append (c := ' ') rfl, hlist.scan_append (c := '(') rfl, hcall.scan_append (c := '(') rfl,
    (Lexeme.spells_name ht).scan_append (c := ',') rfl, Lexeme.scan_append_delimiter (c := ' ') rfl,
    hstart.scan_append (c := ')') rfl, Lexeme.scan_append_delimiter (c := ',') rfl,
    Lexeme.scan_append_delimiter (c := ' ') rfl, (Lexeme.spells_value ht).scan_append (c := ')') rfl]
  rfl

end Items

/-! ## The statement -/

/-- A row of texts is scanned like a row of things, if text by text. -/
theorem clauseLexemes_map {α β : Type} {word : String} {spell : α → List Lexeme}
    {spell' : β → List Lexeme} {xs : List α} {ys : List β} (h : xs.map spell = ys.map spell') :
    clauseLexemes word spell xs = clauseLexemes word spell' ys := by
  have hempty : xs.isEmpty = ys.isEmpty := by
    have hlen := congrArg List.length h
    rw [List.length_map, List.length_map] at hlen
    cases xs <;> cases ys <;> first | rfl | simp at hlen
  rw [clauseLexemes, clauseLexemes, hempty, rowLexemes, rowLexemes, h]

/-- The items of a bucket say what they should, if one of them does. -/
theorem map_ofText_itemTexts {r : Request} {item : String → String → String} {make : String → Assignment}
    {fs : List String}
    (hitem : ∀ t : String, (∀ c ∈ t.toList, Lexeme.delimiter? c = none) →
      Lexeme.ofText (item ("#" ++ t) (":" ++ t)) = (make t).lexemes)
    (hplain : ∀ f ∈ fs, ∀ c ∈ (r.token f).toList, Lexeme.delimiter? c = none) :
    (r.itemTexts item fs).map Lexeme.ofText = (fs.map fun f => make (r.token f)).map Assignment.lexemes := by
  rw [Request.itemTexts, List.map_map, List.map_map]
  refine List.map_congr_left fun f hf => ?_
  show Lexeme.ofText (item ("#" ++ r.token f) (":" ++ r.token f)) = (make (r.token f)).lexemes
  exact hitem _ (hplain f hf)

/-- Where no field occurs twice, the text of an expression says its statement. -/
theorem statement_isReadingOf {r : Request} (hfields : r.fields.isEmpty = false)
    (hnodup : r.fields.all.Nodup) : r.statement.IsReadingOf r.text := by
  have hplain : ∀ f ∈ r.fields.all, ∀ c ∈ (r.token f).toList, Lexeme.delimiter? c = none :=
    fun f hf c hc => delimiter?_of_mem_tokenOf hnodup hf hc
  rw [Fields.all_eq] at hplain
  simp only [List.forall_mem_append] at hplain
  obtain ⟨hassign, hremove, hincrement, happend⟩ := hplain
  constructor
  · -- a statement that says nothing is that of no field
    by_contra hnone
    simp only [not_or, not_not, Request.statement, List.append_eq_nil_iff, List.map_eq_nil_iff]
      at hnone
    obtain ⟨⟨h1, h2, h3⟩, h4⟩ := hnone
    rw [Fields.isEmpty, Fields.all_eq, Request.fields, h1, h2, h3, h4] at hfields
    cases hfields
  · rw [Request.text, ofText_clauses, Statement.lexemes]
    congr 1
    · apply clauseLexemes_map
      rw [Request.statement, List.map_append, List.map_append, List.map_append, List.map_append]
      congr 1
      · exact map_ofText_itemTexts (fun _ => ofText_assignItem) hassign
      · congr 1
        · exact map_ofText_itemTexts (fun _ => ofText_incrementItem) hincrement
        · exact map_ofText_itemTexts (fun _ => ofText_appendItem) happend
    · apply clauseLexemes_map
      rw [Request.statement, List.map_map, List.map_map]
      refine List.map_congr_left fun f hf => ?_
      show Lexeme.ofText ("#" ++ r.token f) = removalLexemes (r.token f)
      exact (Lexeme.spells_name (hremove f hf)).ofText_eq

end Expression

end Amend
