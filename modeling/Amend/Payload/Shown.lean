import Amend.Payload.Basic
import Amend.Text.Quoted

/-!
# How payloads are shown

Messages quote the payload they complain about. A text is shown between marks, a decimal inside its
type, and collections between their brackets; a tuple of one item ends in a comma, and an empty set is
shown by its type. What has no text of its own is shown by a number that nothing else has.

An integer of too many digits cannot be written, and neither can anything that holds one: `Payload.shown` and
`Payload.plain` are the texts of payloads of which `Payload.isShowable` is true.
-/

namespace Amend

/-- Parts with a comma between them. -/
def commaSeparated (parts : List String) : String :=
  ", ".intercalate parts

/-- A truth value as messages show it. -/
def shownBool (b : Bool) : String :=
  if b then "True" else "False"

/-- The most digits of an integer that can be written. -/
def longestInteger : Nat := 4300

/-- The number can be written. -/
def Number.isShowable : Number → Bool
  | .int n => decide (Decimal.digitCount n.natAbs ≤ longestInteger)
  | _ => true

/-- A number as messages show it. -/
def Number.shown : Number → String
  | .decimal d => "Decimal('" ++ d.text ++ "')"
  | n => n.text

/-- Parts between the brackets of a list. -/
def shownList (parts : List String) : String :=
  "[" ++ commaSeparated parts ++ "]"

/-- Parts between the brackets of a tuple. -/
def shownTuple (parts : List String) : String :=
  match parts with
  | [part] => "(" ++ part ++ ",)"
  | parts => "(" ++ commaSeparated parts ++ ")"

/-- Entries between the brackets of a mapping. -/
def shownMapping (parts : List (String × String)) : String :=
  "\x7b" ++ commaSeparated (parts.map fun p => p.1 ++ ": " ++ p.2) ++ "\x7d"

/-- Members between the brackets of a set. -/
def shownSet (parts : List String) : String :=
  if parts.isEmpty then "set()" else "\x7b" ++ commaSeparated parts ++ "\x7d"

/-- A kind of value as messages show it. -/
def Value.Kind.shown (k : Value.Kind) : String :=
  "<ValueKind." ++ k.name.map Char.toUpper ++ ": '" ++ k.name ++ "'>"

mutual

/-- A value as messages show it. -/
def Value.shown (v : Value) : String :=
  let data := match v with
    | .null => "None"
    | .boolean b => shownBool b
    | .number n => n.number.shown
    | .text s => Text.quoted s
    | .sequence items => shownTuple (Value.shownItems items)
    | .mapping entries => shownMapping (Value.shownEntries entries)
  "Value(kind=" ++ v.kind.shown ++ ", data=" ++ data ++ ")"

/-- The items of a sequence as messages show them. -/
def Value.shownItems : List Value → List String
  | [] => []
  | v :: rest => v.shown :: Value.shownItems rest

/-- The entries of a mapping as messages show them. -/
def Value.shownEntries : List (String × Value) → List (String × String)
  | [] => []
  | (name, v) :: rest => (Text.quoted name, v.shown) :: Value.shownEntries rest

end

/-- A part of a key as messages show it. -/
def KeyPart.shown : KeyPart → String
  | .text s _ => Text.quoted s
  | .int n => toString n
  | .decimal d => (Number.decimal d).shown

/-- The part of a key can be shown. -/
def KeyPart.isShowable : KeyPart → Bool
  | .int n => (Number.int n).isShowable
  | _ => true

/-- The key can be shown. -/
def Key.isShowable (k : Key) : Bool :=
  k.partition.isShowable && k.sort.isShowable

/-- A key as messages show it. -/
def Key.shown (k : Key) : String :=
  "RecordKey(pk=" ++ k.partition.shown ++ ", sk=" ++ k.sort.shown ++ ")"

/-- A set of field names as messages show it. -/
def FieldSet.shown? : Option FieldSet → String
  | none => "None"
  | some s =>
    if s.names.isEmpty then "frozenset()"
    else "frozenset(" ++ shownSet (s.names.map Text.quoted) ++ ")"

/-- A field rule as messages show it. -/
def FieldRule.shown (r : FieldRule) : String :=
  "ActionRule(allow_all=" ++ shownBool r.allowAll ++ ", whitelist=" ++ FieldSet.shown? r.whitelist ++
    ", blacklist=" ++ FieldSet.shown? r.blacklist ++ ", mandatory_fields=" ++
    FieldSet.shown? r.mandatory ++ ")"

/-- The values of a bucket as messages show them. -/
def shownBucket (bucket : NameMap Value) : String :=
  shownMapping (bucket.entries.map fun e => (Text.quoted e.1, e.2.shown))

/-- A request as messages show it. -/
def Request.shown (r : Request) : String :=
  "MutationRequest(key=" ++ r.key.shown ++ ", assign=" ++ shownBucket r.assign ++ ", remove=" ++
    shownTuple (r.remove.map Text.quoted) ++ ", increment=" ++ shownBucket r.increment ++
    ", append=" ++ shownBucket r.append ++ ")"

/-- A rule and its action as messages show them. -/
def shownRule (e : Action × FieldRule) : String × String :=
  ("<Action." ++ e.1.name.map Char.toUpper ++ ": '" ++ e.1.name ++ "'>", e.2.shown)

/-- The switches of a pattern as messages show them. -/
def Regex.Flags.shown (f : Regex.Flags) : List String :=
  [("re.TEMPLATE", f.template), ("re.IGNORECASE", f.ignoreCase), ("re.MULTILINE", f.multiLine),
    ("re.DOTALL", f.dotAll), ("re.VERBOSE", f.verbose), ("re.ASCII", f.ascii)].filterMap
    fun (name, on) => if on then some name else none

/-- A compiled pattern as messages show it; of a long one, only the start. -/
def TextPattern.shown (p : TextPattern) : String :=
  let switches := p.flags.shown
  "re.compile(" ++ String.ofList ((Text.quoted p.source).toList.take 200) ++
    (if switches.isEmpty then "" else ", " ++ "|".intercalate switches) ++ ")"

/-- A number of its own, as messages show it. -/
def shownNumber (n : Nat) : String :=
  "0x" ++ String.ofList (Text.hex 12 (0x7F0000000000 + 16 * n))

/-- A guard as messages show it. Stock checks have the numbers before all marks. -/
def Guard.shown {α : Type} : Guard α → String
  | .stock check none =>
    "<function " ++ check.name ++ " at " ++ shownNumber (Check.names.idxOf check.name) ++ ">"
  | .stock _ (some mark) =>
    "<function rule.<locals>.bound at " ++ shownNumber (Check.names.length + mark) ++ ">"
  | .own rule => rule.shown

namespace Payload

mutual

/-- A payload as messages show it. -/
def shown : Payload → String
  | .null => "None"
  | .boolean b => shownBool b
  | .number n => n.shown
  | .text s => Text.quoted s
  | .bytes bs => Text.quotedBytes bs
  | .list items => shownList (shownItems items)
  | .tuple items => shownTuple (shownItems items)
  | .mapping entries => shownMapping (shownEntries entries)
  | .set members => shownSet (shownItems members)
  | .series _ form _ => form.getD ""
  | .pattern p => p.shown
  | .check g => g.shown
  | .value v => v.shown
  | .key k => k.shown
  | .rule r => r.shown
  | .request r => r.shown
  | .policy p => shownPolicy p
  | .object mark => "<object object at " ++ shownNumber (Check.names.length + mark) ++ ">"

/-- Items as messages show them. -/
def shownItems : List Payload → List String
  | [] => []
  | p :: rest => p.shown :: shownItems rest

/-- Entries as messages show them. -/
def shownEntries : List (Payload × Payload) → List (String × String)
  | [] => []
  | (k, p) :: rest => (k.shown, p.shown) :: shownEntries rest

/-- A policy as messages show it. -/
def shownPolicy : Policy Payload → String
  | ⟨rules, autoTimestamp, autoVersion, failOnError, checks⟩ =>
    "PolicyConfig(action_rules=mappingproxy(" ++ shownMapping (rules.entries.map shownRule) ++
      "), auto_timestamp=" ++ shownBool autoTimestamp ++ ", auto_version=" ++ shownBool autoVersion ++
      ", fail_on_error=" ++ shownBool failOnError ++ ", value_rules=" ++ shownChecks checks ++ ")"

/-- The checks of a policy as messages show them, if there are any. -/
def shownChecks : Option (List (Payload × List (Guard Payload))) → String
  | none => "None"
  | some entries => "mappingproxy(" ++ shownMapping (shownGuarded entries) ++ ")"

/-- Fields with their checks as messages show them. -/
def shownGuarded : List (Payload × List (Guard Payload)) → List (String × String)
  | [] => []
  | (field, guards) :: rest => (field.shown, shownTuple (guards.map Guard.shown)) :: shownGuarded rest

end

/-- A payload as plain text. Texts and numbers stand for themselves, and all else is shown. -/
def plain : Payload → String
  | .text s => s
  | .number n => n.text
  | p => p.shown

/-! ## What can be shown -/

mutual

/-- The payload can be shown: no integer in it is too long. What is in a value, being stored, never is. -/
def isShowable : Payload → Bool
  | .number n => n.isShowable
  | .list items => areShowable items
  | .tuple items => areShowable items
  | .mapping entries => entriesShowable entries
  | .set members => areShowable members
  | .series _ form _ => form.isSome
  | .key k => k.isShowable
  | .request r => r.key.isShowable
  | .policy p => policyShowable p
  | _ => true

/-- All items can be shown. -/
def areShowable : List Payload → Bool
  | [] => true
  | p :: rest => isShowable p && areShowable rest

/-- All entries can be shown. -/
def entriesShowable : List (Payload × Payload) → Bool
  | [] => true
  | (k, p) :: rest => isShowable k && isShowable p && entriesShowable rest

/-- The policy can be shown. -/
def policyShowable : Policy Payload → Bool
  | ⟨_, _, _, _, checks⟩ => checksShowable checks

/-- The checks of a policy can be shown, if there are any. -/
def checksShowable : Option (List (Payload × List (Guard Payload))) → Bool
  | none => true
  | some entries => guardedShowable entries

/-- All fields that have checks can be shown. -/
def guardedShowable : List (Payload × List (Guard Payload)) → Bool
  | [] => true
  | (field, _) :: rest => isShowable field && guardedShowable rest

end

/-- Items can be shown if each of them can. -/
theorem areShowable_eq_all (items : List Payload) : areShowable items = items.all isShowable := by
  induction items with
  | nil => rfl
  | cons p rest ih => rw [areShowable, List.all_cons, ih]

/-- Entries can be shown if the key and the payload of each can. -/
theorem entriesShowable_eq_all (entries : List (Payload × Payload)) :
    entriesShowable entries = entries.all fun e => e.1.isShowable && e.2.isShowable := by
  induction entries with
  | nil => rfl
  | cons e rest ih => rw [entriesShowable, List.all_cons, ih]

end Payload

end Amend
