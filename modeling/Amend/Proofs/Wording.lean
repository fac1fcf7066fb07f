import Amend.Batch

/-!
# What answers say

An answer names what it is about: the field, the action or the option that is concerned, and the value that is quoted.
`Mentions` says that a text occurs in another one, and each family of answers has a list of what it has to mention. So
a caller that looks in an answer for the name of a field finds it (`Rejection.names_notice`,
`PolicyError.mentions_detail`), and who reads the log finds the table, the request and the reason
(`LogLine.mentions_message`).
-/

namespace Amend

/-! ## Texts in texts -/

/-- A text has another one in it. -/
def Mentions (text part : String) : Prop :=
  part.toList <:+: text.toList

instance (text part : String) : Decidable (Mentions text part) :=
  inferInstanceAs (Decidable (part.toList <:+: text.toList))

/-- A text has itself in it. -/
@[grind .]
theorem mentions_self (s : String) : Mentions s s :=
  List.infix_rfl

/-- The empty text is in every text. -/
theorem mentions_empty (s : String) : Mentions s "" :=
  List.nil_infix

/-- What is in the first of two texts is in both together. -/
@[grind ←]
theorem Mentions.append {s part : String} (h : Mentions s part) (t : String) : Mentions (s ++ t) part := by
  rw [Mentions, String.toList_append]
  exact h.trans (List.prefix_append _ _).isInfix

/-- So is the second of them. -/
@[grind .]
theorem mentions_append (s t : String) : Mentions (s ++ t) t := by
  rw [Mentions, String.toList_append]
  exact (List.suffix_append _ _).isInfix

namespace Notice

/-- A notice names a text, in its message or in its detail. -/
def Names (n : Notice) (part : String) : Prop :=
  Mentions n.message part ∨ Mentions n.detail part

/-- A notice of two parts names what its message mentions. -/
theorem names_ofParts_of_message {message part : String} (h : Mentions message part) (detail : Option String) :
    (ofParts message detail).Names part := by
  cases detail with
  | none => exact .inl h
  | some d => exact .inl h

/-- It names its detail, even an empty one. -/
theorem names_ofParts (message detail : String) : (ofParts message detail).Names detail := by
  by_cases hempty : detail.isEmpty = true
  · rw [String.isEmpty_iff.1 hempty]
    exact .inl (mentions_empty message)
  · refine .inr ?_
    show Mentions (if detail.isEmpty then message else detail) detail
    rw [if_neg hempty]
    exact mentions_self detail

end Notice

/-! ## Rejections -/

/-- What a violation is about: the value, and what the check asks for. -/
def Violation.subjects : Violation → List String
  | .noMatch value pattern => [value.shown, pattern]
  | .wrongKind value kinds => [value.shown, shownList (Payload.shownItems kinds)]
  | .notListed value allowed => [value.shown, shownList (Payload.shownItems allowed)]
  | .notInteger value | .negativeInteger value => [value.shown]
  | .notDate pattern => [pattern.plain]
  | .outside value minimum maximum | .notBetween value minimum maximum =>
    [value.plain, minimum.plain, maximum.plain]
  | .own message => [message]
  | .negativeAmount | .notDateTime | .notPoint | .badCoordinates | .badTimeOfDay | .badDuration => []

/-- A violation mentions what it is about. -/
theorem Violation.mentions_message (v : Violation) : ∀ s ∈ v.subjects, Mentions v.message s := by
  cases v with
  | negativeAmount | notDateTime | notPoint | badCoordinates | badTimeOfDay | badDuration =>
    exact List.forall_mem_nil _
  | own message => exact List.forall_mem_singleton.2 (mentions_self message)
  | _ =>
    unfold subjects message
    grind

/-- What a rejection is about: a field, an action, what is quoted, or what a check says. -/
def Rejection.subjects : Rejection → List String
  | .notRequest raw | .notKey raw => [raw.shown]
  | .badKeyPart partition sort => [partition.shown, sort.shown]
  | .unknownAction name => [name.plain]
  | .repeatedAction action | .badBucket action | .actionNotPermitted action => [action.name]
  | .badRemoval => [Action.remove.name]
  | .badFieldName action name => [action.name, name.shown]
  | .unsupportedType type => [type.short]
  | .unsupportedName name => [name.shown]
  | .notFinite n => [n.shown]
  | .notStorable n => [n.reading.text]
  | .notWhitelisted field action | .blacklisted field action | .missingMandatory field action =>
    [field, action.name]
  | .duplicateField field | .incrementNotNumber field | .appendNotSequence field => [field]
  | .invalidValue field violation => [field, violation.message]
  | .emptyUpdate | .own .. => []

/-- The notice of a rejection names what the rejection is about. -/
theorem Rejection.names_notice (e : Rejection) : ∀ s ∈ e.subjects, e.notice.Names s := by
  cases e with
  | emptyUpdate | own => exact List.forall_mem_nil _
  | badRemoval =>
    refine List.forall_mem_singleton.2 (.inl ?_)
    decide +kernel
  | invalidValue field violation =>
    have hfield : Mentions ("Malformed request: Invalid value for field '" ++ field ++ "'") field :=
      (mentions_append _ field).append _
    exact List.forall_mem_cons.2 ⟨Notice.names_ofParts_of_message hfield _,
      List.forall_mem_singleton.2 (Notice.names_ofParts _ violation.message)⟩
  | _ =>
    unfold subjects notice
    try unfold malformed
    unfold Notice.Names
    simp only [← String.append_assoc]
    grind

/-! ## Policy errors -/

/-- What a policy error is about: an option, an action, what is quoted, or what is missing. -/
def PolicyError.subjects : PolicyError → List String
  | .notMapping part type => [part.name, type.short]
  | .unknownOption part name => [part.name, name.shown]
  | .notFieldList option => [option]
  | .badFieldName option name => [option, name.shown]
  | .notBoolean option value => [option, value.shown]
  | .missingRules | .rulesNotMapping => ["actionRules"]
  | .unknownAction name => if name.isShowable then [name.shown] else []
  | .repeatedAction action => [action.name]
  | .checksNotMapping => ["valueRules"]
  | .notCheck field => [field.shown]
  | .badTable table => [table.shown]
  | .missing => []

/-- The detail of a policy error mentions what the error is about. -/
theorem PolicyError.mentions_detail (e : PolicyError) : ∀ s ∈ e.subjects, Mentions e.notice.detail s := by
  cases e with
  | missing => exact List.forall_mem_nil _
  | missingRules | rulesNotMapping | checksNotMapping =>
    refine List.forall_mem_singleton.2 ?_
    decide +kernel
  | unknownAction name =>
    show ∀ s ∈ (if name.isShowable then [name.shown] else []), Mentions (Fault.ofUnknownAction name).message s
    by_cases hshown : name.isShowable = true
    · rw [if_pos hshown, Fault.ofUnknownAction, if_pos hshown]
      exact List.forall_mem_singleton.2 (((mentions_append "Unknown action " name.shown).append _).append _)
    · rw [if_neg hshown]
      exact List.forall_mem_nil _
  | _ =>
    unfold subjects notice
    dsimp only
    unfold detail
    grind

/-! ## The log -/

/-- What a line of the log is about: the table, and the request with its reason or how many there are. -/
def LogLine.subjects : LogLine → List String
  | .skipped index table notice => [toString index, table, notice.message, notice.detail]
  | .summary compiled total table => [toString compiled, toString total, table]

/-- A line of the log mentions what it is about. -/
theorem LogLine.mentions_message (line : LogLine) : ∀ s ∈ line.subjects, Mentions line.message s := by
  cases line with
  | skipped index table notice =>
    -- the index and the table stand far in front of the end
    have hindex : Mentions ("Skipping update request " ++ toString index ++ " for table " ++ table ++ ": ")
        (toString index) := by grind
    have htable : Mentions ("Skipping update request " ++ toString index ++ " for table " ++ table ++ ": ")
        table := by grind
    unfold subjects message
    grind
  | summary compiled total table =>
    unfold subjects message
    grind

end Amend
