import Amend.Calendar.Pattern
import Amend.Payload.Shown
import Amend.Regex.Error

/-!
# Faults

A fault ends a call without a judgement on the request: an argument of a check that the check cannot
work with, a question that has no answer, a misuse of an operation, or a rule of the caller's own that
fails. Each constructor is a cause, and the wording is in `Fault.message` alone.

A refusal is told in words, and the words quote what is refused. So a call that has found a reason to refuse
something ends in a fault after all if the reason quotes an integer that is too long to be written: `told` is
how such a call ends.
-/

namespace Amend

/-- Why a call ended without a judgement. -/
inductive Fault where
  /-- A payload of this type can be no member of a set and no key of a mapping. -/
  | unhashable (type : TypeName)
  /-- A signalling number can be no member of a set and no key of a mapping. -/
  | signallingMember
  /-- A payload of this type has no elements. -/
  | notIterable (type : TypeName)
  /-- A payload of this type contains nothing. -/
  | notContainer (type : TypeName)
  /-- Only a text can occur in a text. -/
  | notText (type : TypeName)
  /-- Only bytes or a number can occur in bytes. -/
  | notBytes (type : TypeName)
  /-- A number that is no byte was looked for in bytes. -/
  | notByte
  /-- Payloads of these types have no order. -/
  | unordered (relation : Number.Relation) (left right : TypeName)
  /-- The order of something that is not a number was asked for. -/
  | undecidable
  /-- A number is too large for an amount. -/
  | amountOverflow
  /-- A payload of this type is no pattern. -/
  | notPattern (type : TypeName)
  /-- A text is no pattern. -/
  | badPattern (e : PatternError)
  /-- A date pattern has a directive twice. -/
  | repeatedDirective (r : DatePattern.Repetition)
  | unknownAction (name : Payload)
  /-- A removal has no values. -/
  | noValues (action : Action)
  /-- An expression names a field that the request does not have. -/
  | missingField (name : String)
  /-- Chunks must not be empty. -/
  | emptyChunk
  /-- A moment lies outside the years that can be written. -/
  | momentOutOfRange
  /-- An integer has too many digits to be written. -/
  | longInteger
  /-- A rule of the caller's own rejects a request as none of the kinds. -/
  | unkinded (notice : Notice)
  /-- The kind of a rejection was asked for that is none of the kinds. -/
  | noKind
  /-- A rule of the caller's own cannot go on. -/
  | raised (type message : String)

/-- The names of all actions, as messages list them. -/
def shownActions : String :=
  shownList (Action.all.map fun a => Text.quoted a.name)

namespace Fault

/-- The wording of a fault. -/
def message : Fault → String
  | .unhashable type => "unhashable type: '" ++ type.full ++ "'"
  | .signallingMember => "Cannot hash a signaling NaN value"
  | .notIterable type => "'" ++ type.full ++ "' object is not iterable"
  | .notContainer type => "argument of type '" ++ type.full ++ "' is not iterable"
  | .notText type => "'in <string>' requires string as left operand, not " ++ type.full
  | .notBytes type => "a bytes-like object is required, not '" ++ type.full ++ "'"
  | .notByte => "byte must be in range(0, 256)"
  | .unordered relation left right =>
    "'" ++ relation.symbol ++ "' not supported between instances of '" ++ left.full ++ "' and '" ++
      right.full ++ "'"
  | .undecidable => "[<class 'decimal.InvalidOperation'>]"
  | .amountOverflow => "[<class 'decimal.Overflow'>]"
  | .notPattern type => "'" ++ type.full ++ "' object has no attribute 'search'"
  | .badPattern e => e.message
  | .repeatedDirective r =>
    "redefinition of group name '" ++ String.singleton r.letter ++ "' as group " ++ toString r.group ++
      "; was group " ++ toString r.first ++ " at position " ++ toString r.position
  | .unknownAction name =>
    "Unknown action " ++ name.shown ++ "; expected one of: " ++ shownActions
  | .noValues action => "Action " ++ Text.quoted action.name ++ " has no value bucket"
  | .missingField name => Text.quoted name
  | .emptyChunk => "size must be > 0"
  | .momentOutOfRange => "date value out of range"
  | .longInteger =>
    "Exceeds the limit (4300 digits) for integer string conversion; use sys.set_int_max_str_digits() to " ++
      "increase the limit"
  | .unkinded notice => notice.message
  | .noKind => "'ValidationError' object has no attribute 'kind'"
  | .raised _ message => message

/-- What becomes of a fault where rejections are counted: one that is a rejection has no kind to be counted
under. -/
def whenCounted : Fault → Fault
  | .unkinded _ => .noKind
  | f => f

/-- The fault of a name that is none of an action. -/
def ofUnknownAction (name : Payload) : Fault :=
  if name.isShowable then .unknownAction name else .longInteger

end Fault

/-- How a call ends that may also end in a fault: it is refused for a reason, or there is no
judgement. -/
inductive OrFault (ε : Type) where
  | refused (reason : ε)
  | fault (f : Fault)

/-- Reasons that are told in words. One that quotes what cannot be shown cannot be told. -/
class Worded (ε : Type) where
  isTellable : ε → Bool

/-- How a call ends that has found a reason to refuse something. -/
def told {ε : Type} [Worded ε] (reason : ε) : OrFault ε :=
  if Worded.isTellable reason then .refused reason else .fault .longInteger

section Told

variable {ε : Type} [Worded ε] {reason : ε}

/-- A reason that can be told is. -/
theorem told_of_isTellable (h : Worded.isTellable reason = true) : told reason = .refused reason :=
  if_pos h

/-- A call is refused for the reason that was found. -/
theorem told_eq_refused_iff {reason' : ε} :
    told reason = .refused reason' ↔ Worded.isTellable reason = true ∧ reason = reason' := by
  rw [told]
  split
  · rename_i h
    simp [h]
  · rename_i h
    simp [h]

/-- The only fault is that the reason cannot be told. -/
theorem told_eq_fault_iff {f : Fault} :
    told reason = .fault f ↔ Worded.isTellable reason = false ∧ f = .longInteger := by
  rw [told]
  split
  · rename_i h
    simp [h]
  · rename_i h
    simp [h, eq_comm]

end Told

/-- A fault ends the call that meets it. -/
def orFault {ε α : Type} : Except Fault α → Except (OrFault ε) α
  | .ok x => .ok x
  | .error f => .error (.fault f)

/-- A reason to refuse ends the call that meets it. -/
def refuse {ε α : Type} [Worded ε] (reason : ε) : Except (OrFault ε) α :=
  .error (told reason)

/-- A call that is refused gives nothing. -/
@[simp] theorem refuse_ne_ok {ε α : Type} [Worded ε] {reason : ε} {x : α} : refuse reason ≠ .ok x :=
  fun h => nomatch h

/-- What a call comes to of which a part may have found a reason to refuse something. -/
def orRefuse {ε α : Type} [Worded ε] : Except ε α → Except (OrFault ε) α
  | .ok x => .ok x
  | .error reason => refuse reason

end Amend
