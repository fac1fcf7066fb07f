import Amend.Proofs.Request.Grammar
import Amend.Proofs.Value.Unwrapping

/-!
# Requests written out

A request can be written out as a mapping in many ways (`Style`): each bucket under either name of its action, a
bucket without entries left out, null or empty, and the entries in any order. Whichever way it is written, reading
it gives the request back, with the entries of each bucket in their order (`Request.parse_rendered`).

That the entries come in any order does not matter because an entry of the mapping is all that is under its
name: the key is looked up (`entry?_of_forall`), and so is each bucket (`bucketUnder_of_forall`).
-/

namespace Amend

/-- How a bucket without entries is written. -/
inductive Blank where
  | omitted
  | null
  | empty

/-- What is written for a bucket without entries, if anything is, from its plain data. -/
def Blank.write (p : Payload) : Blank → Option Payload
  | .omitted => none
  | .null => some .null
  | .empty => some p

/-- How a request is written out: under which name of each action, with what for a bucket without entries, and
with which part of the key first. -/
structure Style where
  name : Action → String
  named : ∀ a, name a = a.name ∨ a.alias? = some (name a)
  blank : Action → Blank
  sortFirst : Bool

/-- Either name of an action stands for it. -/
theorem Style.ofName?_name (st : Style) (a : Action) : Action.ofName? (st.name a) = some a := by
  rcases st.named a with h | h
  · rw [h]
    exact Action.ofName?_name a
  · exact Action.ofName?_alias h

namespace Request

/-! ## Writing -/

/-- A bucket as plain data: the names of removals, and the values of the other actions by name. -/
def contents (r : Request) (a : Action) : Payload :=
  match r.bucket? a with
  | some b => .mapping (Value.entryPayloads b.entries)
  | none => .list (r.remove.map .text)

/-- What is written under an action, if anything is. -/
def writtenUnder (r : Request) (st : Style) (a : Action) : Option Payload :=
  if r.fields.under a = [] then (st.blank a).write (r.contents a) else some (r.contents a)

/-- A key as plain data. -/
def keyContents (k : Key) (st : Style) : Payload :=
  let partition := (.text "pk", k.partition.toPayload)
  let sort := (.text "sk", k.sort.toPayload)
  .mapping (if st.sortFirst then [sort, partition] else [partition, sort])

/-- A request written out: its key, and what is written under each action. -/
def rendered (r : Request) (st : Style) : List (Payload × Payload) :=
  (.text "key", keyContents r.key st) ::
    Action.all.filterMap fun a => (r.writtenUnder st a).map fun p => (.text (st.name a), p)

variable {r : Request} {st : Style}

/-- A request that is written out has an entry for its key, and one for each action under which something is
written. -/
theorem mem_rendered_iff {e : Payload × Payload} :
    e ∈ r.rendered st ↔ e = (.text "key", keyContents r.key st) ∨
      ∃ a p, r.writtenUnder st a = some p ∧ e = (.text (st.name a), p) := by
  have hall (a : Action) : a ∈ Action.all := by cases a <;> decide
  simp only [rendered, List.mem_cons, List.mem_filterMap, hall, true_and, Option.map_eq_some_iff]
  simp only [eq_comm]

/-- An action is named by what is written under it, and by nothing else. -/
theorem mem_rendered_of_action {e : Payload × Payload} {a : Action} (h : e ∈ r.rendered st)
    (ha : Action.ofPayload? e.1 = some a) : r.writtenUnder st a = some e.2 := by
  rcases mem_rendered_iff.1 h with rfl | ⟨b, p, hp, rfl⟩
  · cases ha
  · obtain rfl : b = a := Option.some.inj ((st.ofName?_name b).symm.trans ha)
    exact hp

/-- No two entries name one action. -/
theorem pairwise_rendered (r : Request) (st : Style) :
    (r.rendered st).Pairwise fun e f => ∀ a, Action.ofPayload? e.1 = some a → Action.ofPayload? f.1 ≠ some a := by
  have hdistinct : Action.all.Pairwise fun a b => a ≠ b := by decide
  refine List.pairwise_cons.2 ⟨nofun, List.pairwise_filterMap.2 (hdistinct.imp fun {a b} hab => ?_)⟩
  intro e he f hf c hc hc'
  obtain ⟨p, -, rfl⟩ := Option.map_eq_some_iff.1 he
  obtain ⟨q, -, rfl⟩ := Option.map_eq_some_iff.1 hf
  exact hab (Option.some.inj (((st.ofName?_name a).symm.trans hc).trans (hc'.symm.trans (st.ofName?_name b))))

/-! ## Looking entries up -/

variable {entries : List (Payload × Payload)}

/-- Where all entries under a name hold one payload, that is what is looked up. -/
theorem entry?_of_forall {name : String} {p : Payload} (hmem : (.text name, p) ∈ entries)
    (h : ∀ e ∈ entries, e.1 = .text name → e.2 = p) : Payload.entry? entries name = some p := by
  rw [Payload.entry?]
  cases hfind : entries.find? _ with
  | none => simpa using List.find?_eq_none.1 hfind _ hmem
  | some e =>
    obtain ⟨key, q⟩ := e
    have hkey : key = .text name := by
      have hname := List.find?_some hfind
      cases key <;> simp_all
    rw [Option.map_some, h _ (List.mem_of_find?_eq_some hfind) hkey]

/-- Where all entries under an action hold one payload, that is the bucket. -/
theorem bucketUnder_of_forall {a : Action} {p : Payload}
    (hmem : p = .null ∨ ∃ e ∈ entries, Action.ofPayload? e.1 = some a)
    (h : ∀ e ∈ entries, Action.ofPayload? e.1 = some a → e.2 = p) : bucketUnder entries a = p := by
  rw [bucketUnder]
  cases hfind : entries.findSome? _ with
  | none =>
    rcases hmem with rfl | ⟨e, he, ha⟩
    · rfl
    · have hnull := List.findSome?_eq_none_iff.1 hfind e he
      rw [if_pos ha, h e he ha] at hnull
      cases p <;> first | rfl | cases hnull
  | some q =>
    obtain ⟨e, he, hq⟩ := List.exists_of_findSome?_eq_some hfind
    split at hq
    · rename_i ha
      rw [h e he ha] at hq
      cases p <;> cases hq <;> rfl
    · cases hq

/-! ## Reading -/

/-- A key is spelled out by its plain data. -/
theorem spelledBy_keyContents (k : Key) (st : Style) : k.SpelledBy (keyContents k st) := by
  rw [keyContents]
  cases st.sortFirst <;> exact ⟨_, rfl, rfl, rfl⟩

/-- Values under names that are not empty are read from their plain data. -/
theorem rowReads_entryPayloads {es : List (String × Value)} (h : ∀ e ∈ es, e.1 ≠ "") :
    List.Forall₂ RowReads (Value.entryPayloads es) es := by
  induction es with
  | nil => exact .nil
  | cons e rest ih =>
    rw [List.forall_mem_cons] at h
    exact .cons ⟨rfl, h.1, Value.ofPayload_toPayload e.2⟩ (ih h.2)

/-- A bucket is read from its plain data. -/
theorem bucketReads_entryPayloads {a : Action} (ha : a ≠ .remove) {b : NameMap Value} (h : "" ∉ b.keys) :
    BucketReads a (.mapping (Value.entryPayloads b.entries)) b := by
  have hrows : rows? a (.mapping (Value.entryPayloads b.entries)) = some (Value.entryPayloads b.entries) := by
    cases a <;> first | rfl | exact absurd rfl ha
  refine ⟨_, b.entries, hrows, rowReads_entryPayloads fun e he hname => h ?_, ?_, fun _ => rfl⟩
  · exact hname ▸ List.mem_map_of_mem he
  · exact OrderedMap.ext (OrderedMap.entries_ofList b.nodup).symm

/-- A bucket without entries is read from null as well. -/
theorem bucketReads_null {a : Action} {b : NameMap Value} (h : b.keys = []) : BucketReads a .null b := by
  have hentries : b.entries = [] := List.map_eq_nil_iff.1 h
  have hrows : rows? a .null = some [] := by cases a <;> rfl
  exact ⟨[], [], hrows, .nil, OrderedMap.ext hentries, fun _ => hentries⟩

/-- What is written under an action is the plain data of its bucket, unless this has no entries: then it may be
null as well, or nothing. -/
theorem getD_writtenUnder (r : Request) (st : Style) (a : Action) :
    (r.writtenUnder st a).getD .null = r.contents a ∨
      r.fields.under a = [] ∧ (r.writtenUnder st a).getD .null = .null := by
  rw [writtenUnder]
  split
  · rename_i hempty
    cases st.blank a with
    | omitted => exact .inr ⟨hempty, rfl⟩
    | null => exact .inr ⟨hempty, rfl⟩
    | empty => exact .inl rfl
  · exact .inl rfl

/-- Each bucket of values is read from what is written under its action. -/
theorem bucketReads_writtenUnder (r : Request) (st : Style) {a : Action} {b : NameMap Value}
    (hb : r.bucket? a = some b) : BucketReads a ((r.writtenUnder st a).getD .null) b := by
  have ha : a ≠ .remove := by
    rintro rfl
    cases hb
  have hunder : r.fields.under a = b.keys := by cases a <;> cases hb <;> rfl
  have hnamed : "" ∉ b.keys := by
    have hall : "" ∉ r.fields.all := r.fields.all_eq ▸ r.named
    exact fun h => hall (List.mem_flatMap.2 ⟨a, by cases a <;> decide, hunder ▸ h⟩)
  rcases getD_writtenUnder r st a with hp | ⟨hempty, hp⟩
  · rw [hp, contents, hb]
    exact bucketReads_entryPayloads ha hnamed
  · rw [hp]
    exact bucketReads_null (hunder ▸ hempty)

/-- The removals are read from what is written under their action. -/
theorem rows?_writtenUnder (r : Request) (st : Style) :
    ∃ rows, rows? .remove ((r.writtenUnder st .remove).getD .null) = some rows ∧
      rows.map Prod.fst = r.remove.map .text := by
  rcases getD_writtenUnder r st .remove with hp | ⟨hempty, hp⟩
  · rw [hp]
    exact ⟨_, rfl, by simp [Function.comp_def]⟩
  · have hremove : r.remove = [] := hempty
    rw [hp, hremove]
    exact ⟨[], rfl, rfl⟩

/-- Of a request that is written out in any order, the key is found. -/
theorem hasKey_of_perm (h : entries.Perm (r.rendered st)) : HasKey entries r.key := by
  refine ⟨keyContents r.key st, entry?_of_forall ?_ fun e he hname => ?_, spelledBy_keyContents r.key st⟩
  · exact h.mem_iff.2 (mem_rendered_iff.2 (.inl rfl))
  · rcases mem_rendered_iff.1 (h.mem_iff.1 he) with rfl | ⟨a, p, -, rfl⟩
    · rfl
    · exact absurd (Payload.text.inj hname) (ne_key_of_ofName?_eq_some (st.ofName?_name a))

/-- Its entries are well named. -/
theorem wellNamed_of_perm (h : entries.Perm (r.rendered st)) : WellNamed entries := by
  constructor
  · intro e he
    rcases mem_rendered_iff.1 (h.mem_iff.1 he) with rfl | ⟨a, p, -, rfl⟩
    · exact .inl rfl
    · exact .inr ⟨a, st.ofName?_name a⟩
  · -- that one entry repeats another depends on their order, that they name one action does not
    have hsymm {e f : Payload × Payload}
        (hef : ∀ a, Action.ofPayload? e.1 = some a → Action.ofPayload? f.1 ≠ some a) :
        ∀ a, Action.ofPayload? f.1 = some a → Action.ofPayload? e.1 ≠ some a :=
      fun a hf he => hef a he hf
    refine ((h.pairwise_iff hsymm).2 (pairwise_rendered r st)).imp fun hef hrepeats => ?_
    obtain ⟨-, a, he, hf⟩ := hrepeats
    exact hef a he hf

/-- Under each action is what is written there. -/
theorem bucketUnder_of_perm (h : entries.Perm (r.rendered st)) (a : Action) :
    bucketUnder entries a = (r.writtenUnder st a).getD .null := by
  refine bucketUnder_of_forall ?_ fun e he ha => ?_
  · cases hp : r.writtenUnder st a with
    | none => exact .inl rfl
    | some p =>
      exact .inr ⟨_, h.mem_iff.2 (mem_rendered_iff.2 (.inr ⟨a, p, hp, rfl⟩)), st.ofName?_name a⟩
  · rw [mem_rendered_of_action (h.mem_iff.1 he) ha]
    rfl

/-- A request that is written out, in any style and with its entries in any order, is read back as it is. -/
theorem parse_rendered (r : Request) (st : Style) {entries : List (Payload × Payload)}
    (h : entries.Perm (r.rendered st)) : parse (.mapping entries) = .ok r := by
  rw [parse_of_wellNamed (hasKey_of_perm h) (wellNamed_of_perm h)]
  simp only [bucketUnder_of_perm h]
  exact ofBuckets_eq_ok_iff.2 ⟨rfl, rows?_writtenUnder r st, bucketReads_writtenUnder r st rfl,
    bucketReads_writtenUnder r st rfl, bucketReads_writtenUnder r st rfl⟩

/-- A style of second names, in which a bucket without entries is null or left out. -/
def secondNames : Style where
  name a := a.alias?.getD a.name
  named a := by cases a <;> simp [Action.alias?]
  blank a := if a = .append then .null else .omitted
  sortFirst := true

/-- A request with something nested to assign, a field to remove twice, and nothing to increment or append. -/
def relocation : Request where
  key := ⟨.text "box" (by decide), .int 7⟩
  assign := .ofList [("shelf", .sequence [.one, .null]), ("hall", .mapping [("name", .text "B")])]
  remove := ["owner", "owner"]
  increment := .empty
  append := .empty
  named := by decide

/-- The request written out in that style, back to front. -/
def relocationEntries : List (Payload × Payload) :=
  [(.text "append", .null), (.text "remove", .list [.text "owner", .text "owner"]),
    (.text "set", .mapping [(.text "shelf", .list [.int 1, .null]),
      (.text "hall", .mapping [(.text "name", .text "B")])]),
    (.text "key", .mapping [(.text "sk", .int 7), (.text "pk", .text "box")])]

/-- These entries are read as the request. -/
theorem parse_rendered_relocation :
    relocationEntries.Perm (relocation.rendered secondNames) ∧
      parse (.mapping relocationEntries) = .ok relocation := by
  have hreverse : relocationEntries = (relocation.rendered secondNames).reverse := rfl
  have hperm : relocationEntries.Perm (relocation.rendered secondNames) := hreverse ▸ List.reverse_perm _
  exact ⟨hperm, parse_rendered relocation secondNames hperm⟩

end Request

end Amend
