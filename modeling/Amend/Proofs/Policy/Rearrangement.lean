import Mathlib.Data.Multiset.Defs
import Amend.Proofs.Policy.Options
import Amend.Proofs.Policy.Reading

/-!
# Policies written in another order

The entries of a policy may come in any order, and so may the rules in it and the options of each rule. The names of
actions are looked at for repetitions, so the order of rules does not matter. The names of options are not: of a
mapping that gives an option under both its names the later entry counts, without a word.

So it depends on the order what a policy is read as (`Policy.meaning?`) only where an option is given twice. The exact
condition is `Policy.Settled`: two values given for an option are read alike, in the policy and in each of its rules.
`Policy.meaning?_reordered_iff` says that a policy is read the same in every order exactly if it is settled, or if it
cannot be read in any order.

The policy and its field rules are mappings of options, to which the same lemmas apply; between the two lie the rules
of the actions, which are read one by one.
-/

namespace Amend

/-! ## Field rules -/

namespace FieldRule

/-- What an option of a field rule holds. -/
def Setting.Content : Setting → Type
  | .allowAll => Bool
  | .whitelist | .blacklist | .mandatory => Option FieldSet

/-- What an option of a field rule is read as. -/
def Setting.read? : (s : Setting) → Option Payload → Option s.Content
  | .allowAll, given => (readFlag "allowAll" false given).toOption
  | .whitelist, given => (readFieldSet "whitelist" given).toOption
  | .blacklist, given => (readFieldSet "blacklist" given).toOption
  | .mandatory, given => (readFieldSet "mandatoryFields" given).toOption

/-- What a field rule holds under its options. -/
def content (r : FieldRule) : (s : Setting) → s.Content
  | .allowAll => r.allowAll
  | .whitelist => r.whitelist
  | .blacklist => r.blacklist
  | .mandatory => r.mandatory

/-- Field rules whose options come in another order. -/
def Reordered : Payload → Payload → Prop :=
  Payload.Reordered fun _ v w => v = w

/-- A mapping is read as a field rule exactly if its options are read as what the rule holds under them. -/
theorem ofPayload_eq_ok_iff {es : List (Payload × Payload)} {r : FieldRule} :
    ofPayload (.mapping es) = .ok r ↔ ReadsAs Setting.ofName? Setting.read? es r.content := by
  simp only [ofPayload, bind_eq_ok_iff, orRefuse_eq_ok_iff, optionsOf]
  constructor
  · rintro ⟨options, hoptions, allowAll, hall, white, hwhite, black, hblack, must, hmust, ⟨⟩⟩
    refine ⟨(readOptions_eq_ok_iff.1 hoptions).1, fun s => ?_⟩
    rw [← given?_of_readOptions hoptions]
    cases s with
    | allowAll => exact toOption_eq_some_iff.2 hall
    | whitelist => exact toOption_eq_some_iff.2 hwhite
    | blacklist => exact toOption_eq_some_iff.2 hblack
    | mandatory => exact toOption_eq_some_iff.2 hmust
  · rintro ⟨hknown, hcontent⟩
    have hoptions : readOptions .actionRule Setting.ofName? es = .ok _ := readOptions_eq_ok_iff.2 ⟨hknown, rfl⟩
    simp only [← given?_of_readOptions hoptions] at hcontent
    exact ⟨_, hoptions, _, toOption_eq_some_iff.1 (hcontent .allowAll), _,
      toOption_eq_some_iff.1 (hcontent .whitelist), _, toOption_eq_some_iff.1 (hcontent .blacklist), _,
      toOption_eq_some_iff.1 (hcontent .mandatory), rfl⟩

end FieldRule

namespace Policy

/-! ## Rules of actions -/

/-- The same field rule is read from two payloads, or none from either. -/
def RuleAlike (p q : Payload) : Prop :=
  ∀ r, ruleOf p = .ok r ↔ ruleOf q = .ok r

/-- A field rule of which no option is ambiguous is read the same in another order. -/
theorem ruleAlike_of_reordered {p q : Payload} (h : FieldRule.Reordered p q)
    (hunambiguous : ∀ settings, p = .mapping settings →
      Unambiguous FieldRule.Setting.ofName? FieldRule.Setting.read? settings) : RuleAlike p q := by
  cases h with
  | same => exact fun r => Iff.rfl
  | entries horder =>
    intro r
    have hcongr := readsAs_congr (m := r.content) horder (hunambiguous _ rfl) fun e _ s w _ hw => by rw [hw]
    exact FieldRule.ofPayload_eq_ok_iff.trans (hcongr.trans FieldRule.ofPayload_eq_ok_iff.symm)

/-- An entry is read as a rule for an action. -/
def ReadsAsRule (e : Payload × Payload) (x : Action × FieldRule) : Prop :=
  Action.ofPayload? e.1 = some x.1 ∧ ruleOf e.2 = .ok x.2

/-- The rules are read exactly if each entry is read as a rule for an action of its own. They come in the order of
the entries. -/
theorem readRules_eq_ok_iff {es : List (Payload × Payload)} {found rules : OrderedMap Action FieldRule} :
    readRules es found = .ok rules ↔
      ∃ new, List.Forall₂ ReadsAsRule es new ∧ rules.entries = found.entries ++ new := by
  induction es generalizing found with
  | nil =>
    simp only [readRules, Except.ok.injEq, List.forall₂_nil_left_iff, exists_eq_left, List.append_nil]
    exact ⟨fun h => h ▸ rfl, fun h => (OrderedMap.ext h).symm⟩
  | cons e rest ih =>
    obtain ⟨name, p⟩ := e
    constructor
    · intro h
      cases hname : Action.ofPayload? name with
      | none => simp [readRules, hname] at h
      | some a =>
        by_cases hnew : a ∈ found.keys
        · simp [readRules, hname, hnew] at h
        · simp only [readRules, hname, hnew, if_false, bind_eq_ok_iff, ih] at h
          obtain ⟨r, hr, new, hrest, hentries⟩ := h
          refine ⟨(a, r) :: new, .cons ⟨hname, hr⟩ hrest, ?_⟩
          rw [hentries, OrderedMap.entries_insert_of_not_mem r hnew, List.append_assoc]
          rfl
    · rintro ⟨new, hnew, hentries⟩
      obtain ⟨⟨a, r⟩, new, ⟨hname, hr⟩, hrest, rfl⟩ := List.forall₂_cons_left_iff.1 hnew
      -- no key occurs twice in what is read, so the action has not been found before
      have hfresh : a ∉ found.keys := by
        have hnodup := rules.nodup
        rw [hentries, List.map_append, List.map_cons, List.nodup_append] at hnodup
        exact fun hmem => hnodup.2.2 a hmem a List.mem_cons_self rfl
      simp only [readRules, hname, hfresh, if_false, bind_eq_ok_iff, ih]
      refine ⟨r, hr, new, hrest, ?_⟩
      rw [hentries, OrderedMap.entries_insert_of_not_mem r hfresh, List.append_assoc]
      rfl

/-- Rules are read from a mapping exactly if its entries are read as them one by one. -/
theorem rulesOf_eq_ok_iff {es : List (Payload × Payload)} {rules : OrderedMap Action FieldRule} :
    rulesOf (.mapping es) = .ok rules ↔ List.Forall₂ ReadsAsRule es rules.entries := by
  refine readRules_eq_ok_iff.trans ?_
  constructor
  · rintro ⟨new, hnew, hentries⟩
    exact hentries ▸ hnew
  · exact fun h => ⟨rules.entries, h, rfl⟩

/-- Rules in another order, which are read alike one by one, give every action the same rule. -/
theorem exists_rulesOf_of_reordered {es fs : List (Payload × Payload)} {rules : OrderedMap Action FieldRule}
    (h : EntriesReordered (fun _ => RuleAlike) es fs) (hes : rulesOf (.mapping es) = .ok rules) :
    ∃ others, rulesOf (.mapping fs) = .ok others ∧ others.get? = rules.get? := by
  obtain ⟨mid, hmid, hperm⟩ := h
  have hread : List.Forall₂ ReadsAsRule mid rules.entries := by
    refine forall₂_of_common ?_ hmid (rulesOf_eq_ok_iff.1 hes)
    rintro e f x ⟨hname, halike⟩ ⟨hx, hr⟩
    exact ⟨hname ▸ hx, (halike x.2).1 hr⟩
  obtain ⟨new, hnew, hpermuted⟩ := List.perm_comp_forall₂ hperm.symm hread
  refine ⟨⟨new, (hpermuted.map Prod.fst).nodup_iff.2 rules.nodup⟩, rulesOf_eq_ok_iff.2 hnew, ?_⟩
  funext a
  ext r
  rw [OrderedMap.get?_eq_some_iff, OrderedMap.get?_eq_some_iff]
  exact hpermuted.mem_iff

/-! ## Policies -/

/-- What an option of a policy holds: the rule for each action, a flag, or the checks, in any order. -/
def Setting.Content : Setting → Type
  | .actionRules => Action → Option FieldRule
  | .autoTimestamp | .autoVersion | .failOnError => Bool
  | .valueRules => Option (Multiset (Payload × List (Guard Payload)))

/-- What an option of a policy is read as. -/
def Setting.read? : (o : Setting) → Option Payload → Option o.Content
  | .actionRules, given => (rulesOf (given.getD .null)).toOption.map OrderedMap.get?
  | .autoTimestamp, given => (readFlag "autoTimestamp" false given).toOption
  | .autoVersion, given => (readFlag "autoVersion" false given).toOption
  | .failOnError, given => (readFlag "failOnError" true given).toOption
  | .valueRules, given => (allChecksOf given).toOption.map (Option.map Multiset.ofList)

/-- What tells one policy from another: what it holds under its options. -/
def meaning (p : Policy Payload) : (o : Setting) → o.Content
  | .actionRules => p.ruleFor
  | .autoTimestamp => p.autoTimestamp
  | .autoVersion => p.autoVersion
  | .failOnError => p.failOnError
  | .valueRules => p.checks.map Multiset.ofList

/-- What a payload is read as, if it is read as a policy. -/
def meaning? (raw : Payload) : Option ((o : Setting) → o.Content) :=
  (ofPayload raw).toOption.map meaning

/-- A mapping is read as a policy exactly if its options are read as what the policy holds under them. -/
theorem meaning?_eq_some_iff {es : List (Payload × Payload)} {m : (o : Setting) → o.Content} :
    meaning? (.mapping es) = some m ↔ ReadsAs Setting.ofName? Setting.read? es m := by
  simp only [meaning?, Option.map_eq_some_iff, toOption_eq_some_iff, ofPayload, bind_eq_ok_iff,
    orRefuse_eq_ok_iff, optionsOf]
  constructor
  · rintro ⟨_, ⟨options, hoptions, rules, hrules, timed, htimed, counted, hcounted, ending, hending, checks,
      hchecks, ⟨⟩⟩, rfl⟩
    refine ⟨(readOptions_eq_ok_iff.1 hoptions).1, fun o => ?_⟩
    rw [← given?_of_readOptions hoptions]
    cases o with
    | actionRules => exact Option.map_eq_some_iff.2 ⟨rules, toOption_eq_some_iff.2 hrules, rfl⟩
    | autoTimestamp => exact toOption_eq_some_iff.2 htimed
    | autoVersion => exact toOption_eq_some_iff.2 hcounted
    | failOnError => exact toOption_eq_some_iff.2 hending
    | valueRules => exact Option.map_eq_some_iff.2 ⟨checks, toOption_eq_some_iff.2 hchecks, rfl⟩
  · rintro ⟨hknown, hcontent⟩
    have hoptions : readOptions .policy Setting.ofName? es = .ok _ := readOptions_eq_ok_iff.2 ⟨hknown, rfl⟩
    simp only [← given?_of_readOptions hoptions] at hcontent
    obtain ⟨rules, hrules, hrule⟩ := Option.map_eq_some_iff.1 (hcontent .actionRules)
    obtain ⟨checks, hchecks, hcheck⟩ := Option.map_eq_some_iff.1 (hcontent .valueRules)
    refine ⟨_, ⟨_, hoptions, rules, toOption_eq_some_iff.1 hrules, _,
      toOption_eq_some_iff.1 (hcontent .autoTimestamp), _, toOption_eq_some_iff.1 (hcontent .autoVersion), _,
      toOption_eq_some_iff.1 (hcontent .failOnError), checks, toOption_eq_some_iff.1 hchecks, rfl⟩, ?_⟩
    funext o
    cases o with
    | actionRules => exact hrule
    | valueRules => exact hcheck
    | _ => rfl

/-- Rules in another order, the options of each in another order as well. -/
def RulesReordered : Payload → Payload → Prop :=
  Payload.Reordered fun _ => FieldRule.Reordered

/-- The payload of an option in another order: only the rules have one. -/
def OptionReordered (name v w : Payload) : Prop :=
  if named? Setting.ofName? name = some .actionRules then RulesReordered v w else v = w

/-- Policies whose options come in another order, and so do the rules among them. -/
def Reordered : Payload → Payload → Prop :=
  Payload.Reordered OptionReordered

/-- Two values given for one option are read alike, in a policy and in each of its field rules. -/
structure Settled (es : List (Payload × Payload)) : Prop where
  options : Unambiguous Setting.ofName? Setting.read? es
  rules : ∀ rules, Gives Setting.ofName? es .actionRules (.mapping rules) →
    ∀ name settings, (name, Payload.mapping settings) ∈ rules →
      Unambiguous FieldRule.Setting.ofName? FieldRule.Setting.read? settings

/-- No option is given twice, in a policy and in each of its field rules. -/
structure SpelledOnce (es : List (Payload × Payload)) : Prop where
  options : es.Pairwise (NamesApart Setting.ofName?)
  rules : ∀ rules, Gives Setting.ofName? es .actionRules (.mapping rules) →
    ∀ name settings, (name, Payload.mapping settings) ∈ rules →
      settings.Pairwise (NamesApart FieldRule.Setting.ofName?)

variable {es : List (Payload × Payload)}

/-- Where no option is given twice, none is ambiguous. -/
theorem SpelledOnce.settled (h : SpelledOnce es) : Settled es :=
  ⟨unambiguous_of_pairwise h.options, fun rules hrules name settings hmem =>
    unambiguous_of_pairwise (h.rules rules hrules name settings hmem)⟩

/-- The rules are read as what they give each action. -/
theorem read?_actionRules_eq_some_iff {v : Payload} {g : Action → Option FieldRule} :
    Setting.read? .actionRules (some v) = some g ↔ ∃ rules, rulesOf v = .ok rules ∧ rules.get? = g := by
  exact Option.map_eq_some_iff.trans (exists_congr fun rules => and_congr_left' toOption_eq_some_iff)

/-- Rules of which no option is ambiguous are read the same in another order. -/
theorem read?_of_rulesReordered {v w : Payload} (h : RulesReordered v w)
    (hunambiguous : ∀ rules, v = .mapping rules → ∀ name settings, (name, Payload.mapping settings) ∈ rules →
      Unambiguous FieldRule.Setting.ofName? FieldRule.Setting.read? settings) :
    Setting.read? .actionRules (some v) = Setting.read? .actionRules (some w) := by
  cases h with
  | same => rfl
  | @entries es fs horder =>
    have halike : EntriesReordered (fun _ => RuleAlike) es fs := by
      refine horder.imp fun e he w hw => ruleAlike_of_reordered hw fun settings hsettings => ?_
      exact hunambiguous es rfl e.1 settings (hsettings ▸ he)
    have hback := halike.symm fun _ _ _ h r => (h r).symm
    refine Option.ext fun g => read?_actionRules_eq_some_iff.trans (.trans ?_ read?_actionRules_eq_some_iff.symm)
    constructor
    · rintro ⟨rules, hrules, rfl⟩
      exact exists_rulesOf_of_reordered halike hrules
    · rintro ⟨rules, hrules, rfl⟩
      exact exists_rulesOf_of_reordered hback hrules

/-- A settled policy is read the same in every order. -/
theorem meaning?_of_settled (hsettled : Settled es) {other : Payload} (h : Reordered (.mapping es) other) :
    meaning? other = meaning? (.mapping es) := by
  cases h with
  | same => rfl
  | entries horder =>
    ext m
    rw [meaning?_eq_some_iff, meaning?_eq_some_iff]
    refine (readsAs_congr horder hsettled.options fun e he o w hname hw => ?_).symm
    by_cases ho : o = .actionRules
    · subst ho
      rw [OptionReordered, if_pos hname] at hw
      refine read?_of_rulesReordered hw fun rules hrules => hsettled.rules rules ⟨e.1, ?_, hname⟩
      exact hrules ▸ he
    · rw [OptionReordered, if_neg (hname ▸ fun h => ho (Option.some.inj h))] at hw
      rw [hw]

/-- A policy that is read as the same in every order is settled. -/
theorem settled_of_forall_reordered {m : (o : Setting) → o.Content}
    (h : ∀ other, Reordered (.mapping es) other → meaning? other = some m) : Settled es := by
  have hsame (name v : Payload) : OptionReordered name v v := by
    unfold OptionReordered
    split
    · exact .same v
    · rfl
  have hreads (fs : List (Payload × Payload)) (horder : Reordered (.mapping es) (.mapping fs)) :=
    meaning?_eq_some_iff.1 (h _ horder)
  refine ⟨unambiguous_of_forall_perm fun fs hperm => hreads fs (.entries (.of_perm hsame hperm)), ?_⟩
  rintro rules ⟨option, hgiven, hoption⟩ name settings hmem
  -- a rule with its options permuted is still read as the rule that all orders give to its action
  obtain ⟨rests, hrests⟩ := EntriesReordered.exists_append_singleton hsame hgiven
  obtain ⟨others, hothers⟩ :=
    EntriesReordered.exists_append_singleton (R := fun _ => FieldRule.Reordered) (fun _ => .same) hmem
  have hrule (fs : List (Payload × Payload)) (hperm : settings.Perm fs) : ∃ a r,
      Action.ofPayload? name = some a ∧ m .actionRules a = some r ∧
        ReadsAs FieldRule.Setting.ofName? FieldRule.Setting.read? fs r.content := by
    have hrules : RulesReordered (.mapping rules) (.mapping (others ++ [(name, .mapping fs)])) :=
      .entries (hothers _ (.entries (.of_perm (fun _ _ => rfl) hperm)))
    have hpolicy := hreads _ (.entries (hrests _ (by rwa [OptionReordered, if_pos hoption])))
    have hcontent := hpolicy.content .actionRules
    rw [lastGiven?_append_singleton hoption] at hcontent
    obtain ⟨table, htable, hget⟩ := read?_actionRules_eq_some_iff.1 hcontent
    have hread := rulesOf_eq_ok_iff.1 htable
    obtain ⟨⟨a, r⟩, hx, ha, hr⟩ := exists_of_mem_forall₂ hread (List.mem_append_right _ List.mem_cons_self)
    exact ⟨a, r, ha, hget ▸ OrderedMap.get?_eq_some_iff.2 hx, FieldRule.ofPayload_eq_ok_iff.1 hr⟩
  obtain ⟨a, r, ha, hr, -⟩ := hrule settings (.refl settings)
  refine unambiguous_of_forall_perm (m := r.content) fun fs hperm => ?_
  obtain ⟨b, s, hb, hs, hreads⟩ := hrule fs hperm
  obtain rfl := Option.some.inj (ha.symm.trans hb)
  obtain rfl := Option.some.inj (hr.symm.trans hs)
  exact hreads

/-- It does not depend on the order what a policy is read as exactly if the policy is settled, or if it is read as
nothing in every order. A policy that gives no option twice is settled. -/
theorem meaning?_reordered_iff (es : List (Payload × Payload)) :
    ((∀ other, Reordered (.mapping es) other → meaning? other = meaning? (.mapping es)) ↔
      Settled es ∨ ∀ other, Reordered (.mapping es) other → meaning? other = none) ∧
    (SpelledOnce es →
      ∀ other, Reordered (.mapping es) other → meaning? other = meaning? (.mapping es)) := by
  refine ⟨⟨fun h => ?_, ?_⟩, fun h other => meaning?_of_settled h.settled⟩
  · cases hread : meaning? (.mapping es) with
    | none => exact .inr fun other horder => (h other horder).trans hread
    | some m => exact .inl (settled_of_forall_reordered fun other horder => (h other horder).trans hread)
  · rintro (hsettled | hnone) other horder
    · exact meaning?_of_settled hsettled horder
    · rw [hnone other horder, hnone _ (.same _)]

/-! ## Policies that use both names of an option -/

/-- A rule with two lists of mandatory fields, which have the same members. -/
def repeatingRule : List (Payload × Payload) :=
  [(.text "mandatoryFields", .list [.text "status", .text "note"]), (.text "allowAll", .boolean true),
    (.text "mandatory_fields", .tuple [.text "note", .text "status", .text "note"])]

/-- A policy with this rule, in which a flag is set twice. -/
def repeating : List (Payload × Payload) :=
  [(.text "autoVersion", .boolean true), (.text "actionRules", .mapping [(.text "set", .mapping repeatingRule)]),
    (.text "auto_version", .boolean true)]

/-- Options that are given twice do no harm where the values are read alike. -/
theorem meaning?_reordered_iff_repeating : Settled repeating ∧ (meaning? (.mapping repeating)).isSome = true ∧
    ∀ other, Reordered (.mapping repeating) other → meaning? other = meaning? (.mapping repeating) := by
  have hlist : (readFieldSet "mandatoryFields" (some (.list [.text "status", .text "note"]))).toOption =
      some (some (.ofList ["note", "status"])) := by
    decide +kernel
  have htuple : (readFieldSet "mandatoryFields"
      (some (.tuple [.text "note", .text "status", .text "note"]))).toOption =
        some (some (.ofList ["note", "status"])) := by
    decide +kernel
  have hrule : Unambiguous FieldRule.Setting.ofName? FieldRule.Setting.read? repeatingRule := by
    refine unambiguous_of_content (FieldRule.content ⟨true, none, none, some (.ofList ["note", "status"])⟩) ?_
    rintro s v ⟨name, hv, hname⟩
    simp only [repeatingRule, List.mem_cons, Prod.mk.injEq, List.not_mem_nil, or_false] at hv
    rcases hv with ⟨rfl, rfl⟩ | ⟨rfl, rfl⟩ | ⟨rfl, rfl⟩ <;> cases hname
    · exact hlist
    · rfl
    · exact htuple
  have hoptions : Unambiguous Setting.ofName? Setting.read? repeating := by
    rintro s v w ⟨name, hv, hname⟩ ⟨other, hw, hother⟩
    simp only [repeating, List.mem_cons, Prod.mk.injEq, List.not_mem_nil, or_false] at hv hw
    rcases hv with ⟨rfl, rfl⟩ | ⟨rfl, rfl⟩ | ⟨rfl, rfl⟩ <;> cases hname <;>
      rcases hw with ⟨rfl, rfl⟩ | ⟨rfl, rfl⟩ | ⟨rfl, rfl⟩ <;> cases hother <;> rfl
  have hsettled : Settled repeating := by
    refine ⟨hoptions, ?_⟩
    rintro rules ⟨option, hrules, -⟩ name settings hmem
    obtain ⟨-, rfl⟩ : _ ∧ rules = [(.text "set", .mapping repeatingRule)] := by simpa [repeating] using hrules
    obtain ⟨-, rfl⟩ : _ ∧ settings = repeatingRule := by simpa using hmem
    exact hrule
  exact ⟨hsettled, by decide +kernel, (meaning?_reordered_iff repeating).1.2 (.inl hsettled)⟩

/-- A policy whose rule for assignments says last that it allows all, after it has said that it does not. -/
def openLast : Payload :=
  .mapping [(.text "actionRules", .mapping [(.text "assign", .mapping
    [(.text "allowAll", .boolean false), (.text "allow_all", .boolean true)])])]

/-- The same policy, whose rule says these two things in the other order. -/
def closedLast : Payload :=
  .mapping [(.text "actionRules", .mapping [(.text "assign", .mapping
    [(.text "allow_all", .boolean true), (.text "allowAll", .boolean false)])])]

/-- Both are read, and no error is found in either. One permits everything to be assigned, the other nothing. -/
theorem meaning?_closedLast_ne : Reordered openLast closedLast ∧
    (∃ p, ofPayload openLast = .ok p ∧ p.ruleFor .assign = some .everything) ∧
    (∃ q, ofPayload closedLast = .ok q ∧ q.ruleFor .assign = some .nothing) ∧
    meaning? closedLast ≠ meaning? openLast := by
  have hrules : FieldRule.Reordered
      (.mapping [(.text "allowAll", .boolean false), (.text "allow_all", .boolean true)])
      (.mapping [(.text "allow_all", .boolean true), (.text "allowAll", .boolean false)]) :=
    .entries (.of_perm (fun _ _ => rfl) (.swap _ _ []))
  have horder : Reordered openLast closedLast := .entries (.singleton (.entries (.singleton hrules)))
  have hopen : ∃ p, ofPayload openLast = .ok p ∧ p.ruleFor .assign = some .everything := ⟨_, rfl, rfl⟩
  have hclosed : ∃ q, ofPayload closedLast = .ok q ∧ q.ruleFor .assign = some .nothing := ⟨_, rfl, rfl⟩
  refine ⟨horder, hopen, hclosed, fun hsame => ?_⟩
  obtain ⟨p, hp, hopen⟩ := hopen
  obtain ⟨q, hq, hclosed⟩ := hclosed
  have hmeaning : some q.meaning = some p.meaning := by rwa [meaning?, meaning?, hp, hq] at hsame
  have hrule : q.ruleFor .assign = p.ruleFor .assign :=
    congrFun (congrFun (Option.some.inj hmeaning) Setting.actionRules) Action.assign
  rw [hopen, hclosed] at hrule
  exact absurd hrule (by decide)

end Policy

end Amend
