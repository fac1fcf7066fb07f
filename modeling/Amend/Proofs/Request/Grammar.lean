import Amend.Proofs.Entries
import Amend.Proofs.Request.NullBuckets
import Amend.Proofs.Request.Telling
import Mathlib.Data.List.Forall2
import Mathlib.Data.List.Nodup

/-!
# The form of a request, and what is answered to anything else

A request is spelled out by a mapping with a key and a bucket for each action (`Request.SpelledBy`). What is wrong
with a mapping can be wrong in many places at once, and the answer is ranked: first the key (`Key.SpelledBy`), then
the names of all buckets (`WellNamed`), then the buckets one after another, and in a bucket the first row that is
at fault (`BucketFault`, `FirstFault`). `Request.parse_ranked` says that reading follows this rank, and gives the
request that is spelled out where nothing is wrong.
-/

namespace Amend

/-! ## Keys -/

/-- A payload spells a key out: it is a mapping in which both parts are what they are as payloads, a text that is
not empty, an integer or a decimal. -/
def Key.SpelledBy (k : Key) (p : Payload) : Prop :=
  ∃ parts, p = .mapping parts ∧ Payload.entry? parts "pk" = some k.partition.toPayload ∧
    Payload.entry? parts "sk" = some k.sort.toPayload

/-- A part of a key is read from what it is as a payload, and from nothing else. -/
theorem KeyPart.ofPayload?_eq_some_iff {p : Payload} {part : KeyPart} :
    KeyPart.ofPayload? p = some part ↔ p = part.toPayload := by
  constructor
  · intro h
    cases p with
    | text s =>
      rw [ofPayload?] at h
      split at h
      · cases h
      · cases h
        rfl
    | number n =>
      cases n with
      | int n => cases h; rfl
      | decimal d => cases h; rfl
      | double x => cases h
    | _ => cases h
  · rintro rfl
    cases part with
    | text s hs => exact dif_neg hs
    | int n => rfl
    | decimal d => rfl

/-- What is not there is no part of a key. -/
theorem KeyPart.getD_eq_toPayload_iff {p : Option Payload} {part : KeyPart} :
    p.getD .null = part.toPayload ↔ p = some part.toPayload := by
  cases p with
  | none => exact iff_of_false (by cases part <;> nofun) nofun
  | some p => simp

/-- A key is read from what spells it out, and from nothing else. -/
theorem Key.ofPayload_eq_ok_iff {p : Payload} {k : Key} : Key.ofPayload p = .ok k ↔ k.SpelledBy p := by
  have hparts (partition sort : Payload) : ofParts partition sort = .ok k ↔
      partition = k.partition.toPayload ∧ sort = k.sort.toPayload := by
    rw [← KeyPart.ofPayload?_eq_some_iff, ← KeyPart.ofPayload?_eq_some_iff, ofParts]
    split
    · rename_i hp hs
      obtain ⟨_, _⟩ := k
      simp only [hp, hs, Except.ok.injEq, Option.some.injEq, mk.injEq]
    · rename_i hnone
      refine iff_of_false (fun h => ?_) fun h => hnone _ _ h.1 h.2
      cases h
  cases p with
  | mapping parts =>
    rw [ofPayload, hparts, KeyPart.getD_eq_toPayload_iff, KeyPart.getD_eq_toPayload_iff, SpelledBy]
    simp
  | _ =>
    constructor
    · intro h
      cases h
    · rintro ⟨_, h, -⟩
      cases h

namespace Request

/-! ## Buckets -/

/-- A payload, if it is not null. -/
def nonNull? : Payload → Option Payload
  | .null => none
  | p => some p

/-- What a request holds under an action: the first payload that is not null under one of the names of the
action, or null. -/
def bucketUnder (entries : List (Payload × Payload)) (a : Action) : Payload :=
  (entries.findSome? fun e => if Action.ofPayload? e.1 = some a then nonNull? e.2 else none).getD .null

/-- The buckets that are found are those that were found before, and what the entries hold. -/
theorem get?_of_bucketsOf {entries : List (Payload × Payload)} {found m : OrderedMap Action Payload}
    (h : bucketsOf entries found = .ok m) (a : Action) :
    m.get? a = (found.get? a).or
      (entries.findSome? fun e => if Action.ofPayload? e.1 = some a then nonNull? e.2 else none) := by
  -- an entry that is taken names an action that has not been found, so the first one that is not null stays
  induction entries generalizing found with
  | nil =>
    cases h
    simp
  | cons e rest ih =>
    rw [bucketsOf_cons] at h
    obtain ⟨found', hstep, hrest⟩ := bind_eq_ok_iff.1 h
    rw [ih hrest, List.findSome?_cons]
    rcases consider_eq_ok_iff.1 hstep with ⟨hkey, rfl⟩ | ⟨b, hb, hnew, hcase⟩
    · simp [hkey, ofPayload?_key]
    · rcases hcase with ⟨hnull, rfl⟩ | ⟨hp, rfl⟩
      · simp [hnull, nonNull?]
      · have hnonNull : nonNull? e.2 = some e.2 := by
          cases hp' : e.2 <;> first | rfl | exact absurd hp' hp
        rw [OrderedMap.get?_insert, hb]
        by_cases hab : b = a
        · subst hab
          simp [OrderedMap.get?_eq_none_iff.2 hnew, hnonNull]
        · simp [hab]

/-- The rows of a bucket, if it has the right shape: the entries of a mapping, or for removals the items of a
sequence that is no text and no bytes, which are names with nothing else to them. A null bucket has no rows. -/
def rows? : Action → Payload → Option (List (Payload × Payload))
  | _, .null => some []
  | .remove, .list names => some (names.map fun name => (name, .null))
  | .remove, .tuple names => some (names.map fun name => (name, .null))
  | .remove, .series _ _ names => some (names.map fun name => (name, .null))
  | .remove, _ => none
  | _, .mapping entries => some entries
  | _, _ => none

/-- What is answered to a bucket of the wrong shape, which makes the request malformed. -/
def wrongShape : Action → Rejection
  | .remove => .badRemoval
  | a => .badBucket a

/-- A payload is the name of a field: a text that is not empty. -/
def IsFieldName (p : Payload) : Prop :=
  ∃ name, name ≠ "" ∧ p = .text name

/-- What is wrong with a row of a bucket: its name first, which makes the request malformed, then its value, which is
unsupported. -/
inductive RowFault (a : Action) (row : Payload × Payload) : Rejection → Prop
  | name (h : ¬ IsFieldName row.1) : RowFault a row (.badFieldName a row.1)
  | value {e : Rejection} (hname : IsFieldName row.1) (h : Value.ofPayload row.2 = .error e)
      (hkind : e.kind = .unsupportedValue) : RowFault a row e

/-- What is wrong with a bucket: its shape, or the first row that is at fault. -/
inductive BucketFault (a : Action) (p : Payload) : Rejection → Prop
  | shape (h : rows? a p = none) : BucketFault a p (wrongShape a)
  | row {rows : List (Payload × Payload)} {e : Rejection} (h : rows? a p = some rows)
      (hrow : FirstFault (RowFault a) rows e) : BucketFault a p e

/-- A row of a bucket as an entry of a request: a name and the value of its payload. -/
def RowReads (row : Payload × Payload) (e : String × Value) : Prop :=
  row.1 = .text e.1 ∧ e.1 ≠ "" ∧ Value.ofPayload row.2 = .ok e.2

/-! ### Names -/

/-- A name of a field is read as itself. -/
theorem fieldName_eq_ok_iff {a : Action} {p : Payload} {name : { name : String // name ≠ "" }} :
    fieldName a p = .ok name ↔ p = .text name.1 := by
  cases p with
  | text s =>
    rw [fieldName]
    split
    · rename_i hs
      refine iff_of_false (fun h => ?_) fun h => name.2 ?_
      · cases h
      · cases h
        exact hs
    · simp [Subtype.ext_iff]
  | _ => simp [fieldName]

/-- Anything else is refused. -/
theorem fieldName_eq_error_iff {a : Action} {p : Payload} {e : Rejection} :
    fieldName a p = .error e ↔ ¬ IsFieldName p ∧ e = .badFieldName a p := by
  cases p with
  | text s =>
    rw [fieldName]
    split
    · rename_i hs
      simp [IsFieldName, hs, eq_comm]
    · rename_i hs
      refine iff_of_false (fun h => ?_) fun h => h.1 ⟨s, hs, rfl⟩
      cases h
  | _ => simp [fieldName, IsFieldName, eq_comm]

/-- Names are read as themselves, in order. -/
theorem fieldNames_eq_ok_iff {a : Action} {items : List Payload} {names : { names : List String // "" ∉ names }} :
    fieldNames a items = .ok names ↔ items = names.1.map .text := by
  obtain ⟨names, hnames⟩ := names
  induction items generalizing names with
  | nil => simp [fieldNames, eq_comm]
  | cons p rest ih =>
    rw [fieldNames]
    simp only [bind_eq_ok_iff, fieldName_eq_ok_iff]
    constructor
    · rintro ⟨name, rfl, ⟨others, hothers⟩, hrest, hnames⟩
      cases hnames
      rw [(ih others hothers).1 hrest, List.map_cons]
    · intro h
      cases names with
      | nil => cases h
      | cons name others =>
        cases h
        rw [List.mem_cons, not_or] at hnames
        exact ⟨⟨name, Ne.symm hnames.1⟩, rfl, ⟨others, hnames.2⟩, (ih others hnames.2).2 rfl, rfl⟩

/-- Names are refused for the first one that is none. -/
theorem fieldNames_eq_error_iff {a : Action} {items : List Payload} {e : Rejection} :
    fieldNames a items = .error e ↔ FirstFault (fun p e => fieldName a p = .error e) items e := by
  induction items with
  | nil => exact iff_of_false nofun not_firstFault_nil
  | cons p rest ih =>
    rw [fieldNames, firstFault_cons_iff]
    exact bind_eq_error_iff_or fun name => bind_ok_eq_error_iff.trans ih

/-! ### Rows -/

/-- A row of a bucket is read name first. -/
def readRow (a : Action) (row : Payload × Payload) : Except Rejection ({ name : String // name ≠ "" } × Value) := do
  let name ← fieldName a row.1
  let v ← Value.ofPayload row.2
  return (name, v)

/-- Rows are read one after another. -/
theorem Bucket.read_cons (a : Action) (b : Bucket) (row : Payload × Payload) (rest : List (Payload × Payload)) :
    Bucket.read a b (row :: rest) =
      readRow a row >>= fun e => Bucket.read a (b.insert e.1.1 e.1.2 e.2) rest := by
  rw [Bucket.read, readRow, bind_assoc]
  refine bind_congr fun name => ?_
  rw [bind_assoc]
  rfl

/-- A row is refused for what is wrong with it. -/
theorem readRow_eq_error_iff {a : Action} {row : Payload × Payload} {e : Rejection} :
    readRow a row = .error e ↔ RowFault a row e := by
  have hname : (∀ f, fieldName a row.1 ≠ .error f) ↔ IsFieldName row.1 := by
    simp [fieldName_eq_error_iff]
  have hread : readRow a row = .error e ↔
      fieldName a row.1 = .error e ∨ (∀ f, fieldName a row.1 ≠ .error f) ∧ Value.ofPayload row.2 = .error e :=
    bind_eq_error_iff_or fun name => bind_ok_eq_error_iff
  rw [hread, fieldName_eq_error_iff, hname]
  constructor
  · rintro (⟨hnone, rfl⟩ | ⟨hname, hvalue⟩)
    · exact .name hnone
    · exact .value hname hvalue (List.mem_singleton.1 (Value.failsOnly_ofPayload _ e hvalue))
  · rintro (hnone | ⟨hname, hvalue, -⟩)
    · exact .inl ⟨hnone, rfl⟩
    · exact .inr ⟨hname, hvalue⟩

/-- Rows are refused for the first one that is at fault. -/
theorem Bucket.read_eq_error_iff {a : Action} {b : Bucket} {rows : List (Payload × Payload)} {e : Rejection} :
    Bucket.read a b rows = .error e ↔ FirstFault (RowFault a) rows e := by
  induction rows generalizing b with
  | nil => exact iff_of_false nofun not_firstFault_nil
  | cons row rest ih =>
    rw [Bucket.read_cons, firstFault_cons_iff]
    simp only [← readRow_eq_error_iff]
    exact bind_eq_error_iff_or fun entry => ih

/-- A row is read as a name and the value of its payload. -/
theorem readRow_eq_ok_iff {a : Action} {row : Payload × Payload} {e : { name : String // name ≠ "" } × Value} :
    readRow a row = .ok e ↔ RowReads row (e.1.1, e.2) := by
  simp only [readRow, bind_eq_ok_iff, fieldName_eq_ok_iff, RowReads]
  constructor
  · rintro ⟨name, hname, v, hv, ⟨⟩⟩
    exact ⟨hname, name.2, hv⟩
  · rintro ⟨hname, -, hv⟩
    exact ⟨e.1, hname, e.2, hv, rfl⟩

/-- Rows are read as entries that are inserted one after another. -/
theorem Bucket.read_eq_ok_iff {a : Action} {b b' : Bucket} {rows : List (Payload × Payload)} :
    Bucket.read a b rows = .ok b' ↔
      ∃ es, List.Forall₂ RowReads rows es ∧ b'.1 = es.foldl (fun m e => m.insert e.1 e.2) b.1 := by
  induction rows generalizing b with
  | nil =>
    constructor
    · rintro ⟨⟩
      exact ⟨[], .nil, rfl⟩
    · rintro ⟨es, hes, hb⟩
      cases hes
      exact congrArg Except.ok (Subtype.ext hb.symm)
  | cons row rest ih =>
    rw [Bucket.read_cons]
    simp only [bind_eq_ok_iff, readRow_eq_ok_iff, ih]
    constructor
    · rintro ⟨e, he, es, hes, hb⟩
      exact ⟨(e.1.1, e.2) :: es, .cons he hes, hb⟩
    · rintro ⟨es, hes, hb⟩
      cases hes with
      | @cons _ e _ es he hes => exact ⟨(⟨e.1, he.2.1⟩, e.2), he, es, hes, hb⟩

/-! ### Whole buckets -/

/-- Removals are read as the names in their rows. -/
theorem removal_eq (p : Payload) : removal p =
    match rows? .remove p with
    | none => .error (wrongShape .remove)
    | some rows => fieldNames .remove (rows.map Prod.fst) := by
  cases p <;> simp [removal, rows?, wrongShape, fieldNames, Function.comp_def]

/-- Any other bucket is read row by row. -/
theorem bucket_eq {a : Action} (ha : a ≠ .remove) (p : Payload) : bucket a p =
    match rows? a p with
    | none => .error (wrongShape a)
    | some rows => Bucket.read a ⟨.empty, by simp⟩ rows := by
  cases a with
  | remove => exact absurd rfl ha
  | _ => cases p <;> rfl

/-- The rows of removals have nothing but names. -/
theorem snd_of_mem_rows? {p : Payload} {rows : List (Payload × Payload)} (h : rows? .remove p = some rows)
    {row : Payload × Payload} (hrow : row ∈ rows) : row.2 = .null := by
  cases p with
  | null =>
    cases h
    cases hrow
  | list names | tuple names | series _ _ names =>
    cases h
    obtain ⟨name, -, rfl⟩ := List.mem_map.1 hrow
    rfl
  | _ => cases h

/-- What is wrong with a bucket is its shape, or what is wrong with its rows. -/
theorem bucketFault_iff {a : Action} {p : Payload} {e : Rejection} : BucketFault a p e ↔
    match rows? a p with
    | none => e = wrongShape a
    | some rows => FirstFault (RowFault a) rows e := by
  constructor
  · rintro (h | ⟨h, hrow⟩)
    · rw [h]
    · rw [h]
      exact hrow
  · intro h
    split at h
    · rename_i hshape
      exact h ▸ .shape hshape
    · rename_i hrows
      exact .row hrows h

/-- Removals are refused for what is wrong with them. -/
theorem removal_eq_error_iff {p : Payload} {e : Rejection} : removal p = .error e ↔ BucketFault .remove p e := by
  rw [removal_eq, bucketFault_iff]
  split
  · exact ⟨fun h => (Except.error.inj h).symm, fun h => h ▸ rfl⟩
  · rename_i rows hrows
    rw [fieldNames_eq_error_iff, firstFault_map_iff]
    refine FirstFault.congr fun row hrow f => ?_
    rw [fieldName_eq_error_iff]
    constructor
    · rintro ⟨hname, rfl⟩
      exact .name hname
    · rintro (hname | ⟨-, hvalue, -⟩)
      · exact ⟨hname, rfl⟩
      · rw [snd_of_mem_rows? hrows hrow] at hvalue
        cases hvalue

/-- So is any other bucket. -/
theorem bucket_eq_error_iff {a : Action} (ha : a ≠ .remove) {p : Payload} {e : Rejection} :
    bucket a p = .error e ↔ BucketFault a p e := by
  rw [bucket_eq ha, bucketFault_iff]
  split
  · exact ⟨fun h => (Except.error.inj h).symm, fun h => h ▸ rfl⟩
  · exact Bucket.read_eq_error_iff

/-- Removals are read as the names in their rows, repetitions included. -/
theorem removal_eq_ok_iff {p : Payload} {names : { names : List String // "" ∉ names }} :
    removal p = .ok names ↔ ∃ rows, rows? .remove p = some rows ∧ rows.map Prod.fst = names.1.map .text := by
  rw [removal_eq]
  split
  · rename_i hshape
    simp [hshape]
  · rename_i hrows
    simp [hrows, fieldNames_eq_ok_iff]

/-- The entries of a bucket are those of its rows: as in a mapping no row has the name of another one, they are
in the same order. -/
def BucketReads (a : Action) (p : Payload) (bucket : NameMap Value) : Prop :=
  ∃ rows es, rows? a p = some rows ∧ List.Forall₂ RowReads rows es ∧ bucket = .ofList es ∧
    ((rows.map Prod.fst).Nodup → bucket.entries = es)

/-- The entries have the names of the rows. -/
theorem map_fst_of_rowReads {rows : List (Payload × Payload)} {es : List (String × Value)}
    (h : List.Forall₂ RowReads rows es) : rows.map Prod.fst = (es.map Prod.fst).map .text := by
  induction h with
  | nil => rfl
  | cons he _ ih => rw [List.map_cons, List.map_cons, List.map_cons, he.1, ih]

/-- Any other bucket is read as the entries of its rows. -/
theorem bucket_eq_ok_iff {a : Action} (ha : a ≠ .remove) {p : Payload} {b : Bucket} :
    bucket a p = .ok b ↔ BucketReads a p b.1 := by
  rw [bucket_eq ha, BucketReads]
  split
  · rename_i hshape
    simp [hshape]
  · rename_i rows hrows
    rw [Bucket.read_eq_ok_iff, hrows]
    constructor
    · rintro ⟨es, hes, hb⟩
      refine ⟨rows, es, rfl, hes, hb, fun hnodup => ?_⟩
      rw [map_fst_of_rowReads hes] at hnodup
      rw [hb]
      exact OrderedMap.entries_ofList (.of_map _ hnodup)
    · rintro ⟨_, es, ⟨⟩, hes, hb, -⟩
      exact ⟨es, hes, hb⟩

/-! ## Requests -/

/-- The order in which buckets are read. -/
def readingOrder : List Action :=
  [.remove, .assign, .increment, .append]

/-- Buckets are refused for the first one that is at fault. -/
theorem ofBuckets_eq_error_iff {key : Key} {held : Action → Payload} {e : Rejection} :
    ofBuckets key (held .assign) (held .remove) (held .increment) (held .append) = .error e ↔
      FirstFault (fun a => BucketFault a (held a)) readingOrder e := by
  -- what an earlier bucket holds has no part in the faults of a later one
  have hread : ofBuckets key (held .assign) (held .remove) (held .increment) (held .append) = .error e ↔
      removal (held .remove) = .error e ∨ (∀ f, removal (held .remove) ≠ .error f) ∧
        (bucket .assign (held .assign) = .error e ∨ (∀ f, bucket .assign (held .assign) ≠ .error f) ∧
          (bucket .increment (held .increment) = .error e ∨
            (∀ f, bucket .increment (held .increment) ≠ .error f) ∧
              bucket .append (held .append) = .error e)) :=
    bind_eq_error_iff_or fun _ => bind_eq_error_iff_or fun _ => bind_eq_error_iff_or fun _ =>
      bind_ok_eq_error_iff
  simp only [hread, readingOrder, firstFault_cons_iff, not_firstFault_nil, and_false, or_false, ne_eq,
    removal_eq_error_iff, bucket_eq_error_iff (a := .assign) nofun,
    bucket_eq_error_iff (a := .increment) nofun, bucket_eq_error_iff (a := .append) nofun]

/-- A request has the buckets that are read. -/
theorem ofBuckets_eq_ok_iff {key : Key} {assign remove increment append : Payload} {r : Request} :
    ofBuckets key assign remove increment append = .ok r ↔
      r.key = key ∧ (∃ rows, rows? .remove remove = some rows ∧ rows.map Prod.fst = r.remove.map .text) ∧
        BucketReads .assign assign r.assign ∧ BucketReads .increment increment r.increment ∧
        BucketReads .append append r.append := by
  rw [ofBuckets]
  simp only [bind_eq_ok_iff, removal_eq_ok_iff, bucket_eq_ok_iff (a := .assign) nofun,
    bucket_eq_ok_iff (a := .increment) nofun, bucket_eq_ok_iff (a := .append) nofun]
  constructor
  · rintro ⟨names, hremove, b, hassign, c, hincrement, d, happend, ⟨⟩⟩
    exact ⟨rfl, hremove, hassign, hincrement, happend⟩
  · rintro ⟨rfl, hremove, hassign, hincrement, happend⟩
    have hnamed := r.named
    simp only [List.mem_append, not_or] at hnamed
    exact ⟨⟨r.remove, hnamed.2.1⟩, hremove, ⟨r.assign, hnamed.1⟩, hassign, ⟨r.increment, hnamed.2.2.1⟩, hincrement,
      ⟨r.append, hnamed.2.2.2⟩, happend, rfl⟩

/-- A mapping has a key that is spelled out. -/
def HasKey (entries : List (Payload × Payload)) (key : Key) : Prop :=
  ∃ p, Payload.entry? entries "key" = some p ∧ key.SpelledBy p

/-- A request is spelled out by the entries of a mapping: its key by the entry for that, its removals by their
names, and each of the other buckets by its rows. -/
structure SpelledBy (r : Request) (entries : List (Payload × Payload)) : Prop where
  key : HasKey entries r.key
  remove : ∃ rows, rows? .remove (bucketUnder entries .remove) = some rows ∧
    rows.map Prod.fst = r.remove.map .text
  assign : BucketReads .assign (bucketUnder entries .assign) r.assign
  increment : BucketReads .increment (bucketUnder entries .increment) r.increment
  append : BucketReads .append (bucketUnder entries .append) r.append

variable {entries : List (Payload × Payload)} {key : Key}

/-- The key of a mapping is read from its entry. -/
theorem key_eq_ok_iff :
    Key.ofPayload ((Payload.entry? entries "key").getD .null) = .ok key ↔ HasKey entries key := by
  cases h : Payload.entry? entries "key" with
  | none => exact iff_of_false nofun fun ⟨_, hp, _⟩ => nomatch h.symm.trans hp
  | some p => simp [Key.ofPayload_eq_ok_iff, HasKey, h]

/-- Where the key is in order, the names of the buckets are looked at. -/
theorem parse_of_hasKey (h : HasKey entries key) :
    parse (.mapping entries) = bucketsOf entries .empty >>= ofFound key := by
  show (Key.ofPayload ((Payload.entry? entries "key").getD .null) >>= fun key =>
    bucketsOf entries .empty >>= ofFound key) = _
  rw [key_eq_ok_iff.2 h]
  rfl

/-- Where the names of the buckets are in order too, the buckets are looked at. -/
theorem parse_of_wellNamed (h : HasKey entries key) (hnamed : WellNamed entries) :
    parse (.mapping entries) = ofBuckets key (bucketUnder entries .assign) (bucketUnder entries .remove)
      (bucketUnder entries .increment) (bucketUnder entries .append) := by
  obtain ⟨m, hm⟩ := exists_bucketsOf_iff.2 ⟨hnamed, fun _ _ _ _ => OrderedMap.not_mem_keys_empty _⟩
  rw [parse_of_hasKey h, hm]
  show ofFound key m = _
  have hget (a : Action) : (m.get? a).getD .null = bucketUnder entries a := by
    rw [get?_of_bucketsOf hm]
    rfl
  simp only [ofFound, hget]

/-- A payload is refused for its key exactly if it does not have one. -/
theorem exists_malformedKey_iff {raw : Payload} :
    (∃ e, parse raw = .error e ∧ e.kind = .malformedKey) ↔
      ∀ entries, raw = .mapping entries → ∀ key, ¬ HasKey entries key := by
  cases raw with
  | mapping entries =>
    have hkeyless : (∀ key, ¬ HasKey entries key) ↔
        ∃ f, Key.ofPayload ((Payload.entry? entries "key").getD .null) = .error f := by
      simp only [← key_eq_ok_iff, ← not_exists, exists_eq_error_iff]
    have hkind {e : Rejection} (he : parse (.mapping entries) = .error e) :
        e.kind = .malformedKey ↔ ∀ key, ¬ HasKey entries key :=
      (kind_eq_malformedKey_iff he).trans hkeyless.symm
    simp only [Payload.mapping.injEq, forall_eq']
    constructor
    · rintro ⟨e, he, hmalformed⟩
      exact (hkind he).1 hmalformed
    · intro h
      obtain ⟨f, hf⟩ := hkeyless.1 h
      have hparse : parse (.mapping entries) = .error f := by
        rw [parse, hf]
        rfl
      exact ⟨f, hparse, (hkind hparse).2 h⟩
  | _ =>
    refine iff_of_true ⟨_, rfl, rfl⟩ fun entries h => ?_
    cases h

/-- What is found ranks what is wrong with a request: the key, then the names of the buckets, then the first fault
of the first bucket that has one. If nothing is wrong, it is the request that is spelled out. -/
theorem parse_ranked (raw : Payload) :
    ((∃ e, parse raw = .error e ∧ e.kind = .malformedKey) ↔
      ∀ entries, raw = .mapping entries → ∀ key, ¬ HasKey entries key) ∧
    ∀ entries key, raw = .mapping entries → HasKey entries key →
      (¬ WellNamed entries → ∃ e, parse raw = .error e ∧ e.kind = .malformedRequest) ∧
      (WellNamed entries →
        (∀ e, parse raw = .error e ↔ FirstFault (fun a => BucketFault a (bucketUnder entries a)) readingOrder e) ∧
        ((∀ e, ¬ FirstFault (fun a => BucketFault a (bucketUnder entries a)) readingOrder e) →
          ∃ r, parse raw = .ok r ∧ r.SpelledBy entries)) := by
  refine ⟨exists_malformedKey_iff, ?_⟩
  rintro entries key rfl hkey
  constructor
  · intro hnames
    have hfind : ¬ ∃ m, bucketsOf entries .empty = .ok m := fun h => hnames (exists_bucketsOf_iff.1 h).1
    obtain ⟨e, he⟩ := exists_eq_error_iff.2 hfind
    refine ⟨e, ?_, List.mem_singleton.1 (failsOnly_bucketsOf entries .empty e he)⟩
    rw [parse_of_hasKey hkey, he]
    rfl
  · intro hnamed
    have hfault (e : Rejection) : parse (.mapping entries) = .error e ↔
        FirstFault (fun a => BucketFault a (bucketUnder entries a)) readingOrder e := by
      rw [parse_of_wellNamed hkey hnamed]
      exact ofBuckets_eq_error_iff
    refine ⟨hfault, fun hnone => ?_⟩
    obtain ⟨r, hr⟩ := forall_ne_error_iff.1 fun e he => hnone e ((hfault e).1 he)
    rw [parse_of_wellNamed hkey hnamed] at hr ⊢
    obtain ⟨rfl, hremove, hassign, hincrement, happend⟩ := ofBuckets_eq_ok_iff.1 hr
    exact ⟨r, hr, hkey, hremove, hassign, hincrement, happend⟩

/-! ## Calls -/

/-- What a bucket holds can be shown where the entries can. -/
theorem isShowable_bucketUnder (h : Payload.entriesShowable entries = true) (a : Action) :
    (bucketUnder entries a).isShowable = true := by
  rw [Payload.entriesShowable_eq_all, List.all_eq_true] at h
  rw [bucketUnder]
  cases hfound : entries.findSome? fun e => if Action.ofPayload? e.1 = some a then nonNull? e.2 else none with
  | none => rfl
  | some p =>
    obtain ⟨e, he, hp⟩ := List.exists_of_findSome?_eq_some hfound
    split at hp
    · have hvalue : e.2 = p := by
        cases hnull : e.2 <;> rw [hnull] at hp <;> cases hp <;> rfl
      exact hvalue ▸ (Bool.and_eq_true_iff.1 (h e he)).2
    · cases hp

/-- What is wrong with a payload that can be shown can be told, if the names of its removals can be shown too. -/
theorem tells_parse {raw : Payload} (h : raw.isShowable = true)
    (hremovals : ∀ entries, raw = .mapping entries → removalsShowable (bucketUnder entries .remove) = true) :
    Tells (parse raw) := by
  cases raw with
  | mapping entries =>
    cases hread : Key.ofPayload ((Payload.entry? entries "key").getD .null) with
    | error e =>
      have htells := Key.tells_ofPayload (Payload.isShowable_entryOrNull h "key")
      rw [parse, hread]
      exact fails_error (htells e hread)
    | ok key =>
      have hkey := key_eq_ok_iff.1 hread
      by_cases hnamed : WellNamed entries
      · rw [parse_of_wellNamed hkey hnamed]
        exact tells_ofBuckets key (isShowable_bucketUnder h _) (hremovals entries rfl) (isShowable_bucketUnder h _)
          (isShowable_bucketUnder h _)
      · have hfind : ¬ ∃ m, bucketsOf entries .empty = .ok m := fun hm => hnamed (exists_bucketsOf_iff.1 hm).1
        obtain ⟨e, he⟩ := exists_eq_error_iff.2 hfind
        rw [parse_of_hasKey hkey, he]
        exact fails_error (tells_bucketsOf h .empty e he)
  | _ => exact fails_error h

/-- A call that reads a request answers with what is found, by rank, if this can be told: what is wrong with the key,
then with the names of the buckets, then the first fault of the first bucket that has one, or the request that is
spelled out if nothing is wrong. What is found can be told where everything that a rejection may quote can be shown;
and if it cannot be told, the call ends in the fault that says so. -/
theorem ofMapping_ranked (raw : Payload) :
    (Tells (parse raw) →
      ((∃ e, ofMapping raw = .error (.refused e) ∧ e.kind = .malformedKey) ↔
        ∀ entries, raw = .mapping entries → ∀ key, ¬ HasKey entries key) ∧
      ∀ entries key, raw = .mapping entries → HasKey entries key →
        (¬ WellNamed entries → ∃ e, ofMapping raw = .error (.refused e) ∧ e.kind = .malformedRequest) ∧
        (WellNamed entries →
          (∀ e, ofMapping raw = .error (.refused e) ↔
            FirstFault (fun a => BucketFault a (bucketUnder entries a)) readingOrder e) ∧
          ((∀ e, ¬ FirstFault (fun a => BucketFault a (bucketUnder entries a)) readingOrder e) →
            ∃ r, ofMapping raw = .ok r ∧ r.SpelledBy entries))) ∧
    (raw.isShowable = true →
      (∀ entries, raw = .mapping entries → removalsShowable (bucketUnder entries .remove) = true) →
      Tells (parse raw)) ∧
    (¬ Tells (parse raw) → ofMapping raw = .error (.fault .longInteger)) := by
  refine ⟨fun htells => ?_, tells_parse, fun huntold => ?_⟩
  · have hrefused (e : Rejection) : ofMapping raw = .error (.refused e) ↔ parse raw = .error e :=
      orRefuse_eq_refused_iff.trans (and_iff_left_of_imp (htells e))
    have hgives (r : Request) : ofMapping raw = .ok r ↔ parse raw = .ok r := orRefuse_eq_ok_iff
    simp only [hrefused, hgives]
    exact parse_ranked raw
  · simp only [Fails, not_forall, Bool.not_eq_true] at huntold
    obtain ⟨e, he, hlong⟩ := huntold
    exact orRefuse_eq_fault_iff.2 ⟨⟨e, he, hlong⟩, rfl⟩

/-- A request with a row that has no name, behind a sound row and before one that is worse, and with a bucket of
the wrong shape. -/
def muddled : List (Payload × Payload) :=
  [(.text "add", .int 5), (.text "assign", .null),
    (.text "set", .mapping [(.text "size", .int 1), (.text "", .int 2), (.int 3, .bytes [])]),
    (.text "key", .mapping [(.text "sk", .int 7), (.text "pk", .text "box")]),
    (.text "remove", .tuple [.text "owner", .text "owner"])]

/-- It is refused for the row that has no name, the first fault of the first bucket that has one. -/
theorem ofMapping_ranked_muddled : HasKey muddled ⟨.text "box" (by decide), .int 7⟩ ∧ WellNamed muddled ∧
    ofMapping (.mapping muddled) = .error (.refused (.badFieldName .assign (.text ""))) := by
  have hkey : HasKey muddled ⟨.text "box" (by decide), .int 7⟩ := ⟨_, rfl, _, rfl, rfl, rfl⟩
  have hnamed : WellNamed muddled := by
    constructor
    · simp only [muddled, List.forall_mem_cons]
      exact ⟨.inr ⟨_, rfl⟩, .inr ⟨_, rfl⟩, .inr ⟨_, rfl⟩, .inl trivial, .inr ⟨_, rfl⟩, nofun⟩
    · simp [muddled, Repeats, Action.ofPayload?, Action.ofName?, Action.all, Action.name, Action.alias?]
  obtain ⟨hranked, htold, -⟩ := ofMapping_ranked (.mapping muddled)
  have htells : Tells (parse (.mapping muddled)) := by
    refine htold (by decide +kernel) ?_
    rintro _ ⟨⟩
    decide +kernel
  refine ⟨hkey, hnamed, ((((hranked htells).2 _ _ rfl hkey).2 hnamed).1 _).2 ?_⟩
  refine ⟨[.remove], .assign, [.increment, .append], rfl, ?_, ?_⟩
  · rintro a ha f hf
    obtain rfl := List.mem_singleton.1 ha
    cases removal_eq_error_iff.2 hf
  · refine .row rfl ⟨[(.text "size", .int 1)], (.text "", .int 2), _, rfl, ?_, .name ?_⟩
    · rintro row hrow f hf
      obtain rfl := List.mem_singleton.1 hrow
      cases readRow_eq_error_iff.2 hf
    · rintro ⟨name, hname, ⟨⟩⟩
      exact hname rfl

/-- A number that cannot be written is not refused. -/
theorem ofMapping_number {n : Number} (h : n.isShowable = false) :
    ofMapping (.number n) = .error (.fault .longInteger) :=
  orRefuse_eq_fault_iff.2 ⟨⟨_, rfl, h⟩, rfl⟩

/-- A request whose removals are a range without numbers. -/
def emptyRange : Payload :=
  .mapping [(.text "key", .mapping [(.text "pk", .text "box"), (.text "sk", .int 7)]),
    (.text "remove", .series ⟨⟨"range", "range"⟩, true⟩ (some "range(0, 0)") [])]

/-- Removals may be a sequence that is neither a list nor a tuple: nothing is wrong with this request. And an integer
that is too long to be written is not refused for having no key. -/
theorem ofMapping_ranked_range :
    (∃ r, ofMapping emptyRange = .ok r ∧ r.remove = []) ∧
      ofMapping (.int (powerOfTen 5000)) = .error (.fault .longInteger) := by
  have hempty : (ofMapping emptyRange).toOption.map Request.remove = some [] := by decide +kernel
  obtain ⟨r, hr, hnone⟩ := Option.map_eq_some_iff.1 hempty
  exact ⟨⟨r, toOption_eq_some_iff.1 hr, hnone⟩, ofMapping_number (Number.isShowable_powerOfTen (by decide))⟩

end Request

end Amend
