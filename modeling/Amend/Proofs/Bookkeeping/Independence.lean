import Amend.Proofs.Bookkeeping.Injection
import Amend.Proofs.Update

/-!
# Bookkeeping fields cannot be spoofed

Two requests that differ in nothing but what they say about the bookkeeping fields come to the same, whatever
buckets the fields are in and whatever is wrong there: the same update, or the same end without one
(`Request.compile_withAutoFields_eq`). The reason is that they are the same request once the bookkeeping fields
are written. An update touches each of these fields once, by the instruction that the policy asks for.
-/

namespace Amend.Request

/-- Requests that agree once the bookkeeping fields of a policy are dropped come to the same under it, and
where that is an update, it assigns the time and increments the count by one, if they are kept, and does
nothing else to these fields. -/
theorem compile_withAutoFields_eq {p : Policy Payload} {r₁ r₂ : Request}
    (h : r₁.withoutAutoFields p = r₂.withoutAutoFields p) (table stamp : String) :
    (r₁.withAutoFields p.effective stamp).compile table p.effective =
        (r₂.withAutoFields p.effective stamp).compile table p.effective ∧
      ∀ u, (r₁.withAutoFields p.effective stamp).compile table p.effective = .ok u →
        ∃ is, u.instructions? = some is ∧
          (p.autoTimestamp = true → is.filter (fun i => i.field = Policy.timestampField) =
            [.assign Policy.timestampField (.text stamp)]) ∧
          (p.autoVersion = true → is.filter (fun i => i.field = Policy.versionField) =
            [.increment Policy.versionField (.number "1")]) := by
  -- widening a policy keeps its switches
  have hsame : r₁.withAutoFields p.effective stamp = r₂.withAutoFields p.effective stamp := by
    show r₁.withAutoFields p stamp = r₂.withAutoFields p stamp
    rw [← withAutoFields_withoutAutoFields, h, withAutoFields_withoutAutoFields]
  refine ⟨by rw [hsame], fun u hu => ?_⟩
  obtain ⟨hread, hdistinct⟩ := instructions?_of_compile hu
  -- so an instruction of the policy is the only one on its field
  have honly : ∀ i ∈ p.autoInstructions stamp,
      (r₁.withAutoFields p.effective stamp).instructions.filter (fun j => j.field = i.field) = [i] := by
    intro i hi
    refine Instruction.filter_field_eq hdistinct ?_
    exact (instructions_withAutoFields r₁ p stamp).symm.subset (List.mem_append_right _ hi)
  refine ⟨_, hread, fun htime => ?_, fun hcount => ?_⟩
  · refine honly (.assign Policy.timestampField (.text stamp)) (List.mem_append_left _ ?_)
    rw [Policy.timeEntries, if_pos htime]
    exact List.mem_singleton.2 rfl
  · refine honly (.increment Policy.versionField (.number "1")) (List.mem_append_right _ ?_)
    rw [Policy.countEntries, if_pos hcount]
    exact List.mem_singleton.2 rfl

/-! ## A spoofed request -/

/-- A policy under which the status of a case may be set, with both bookkeeping fields. -/
def casePolicy : Policy Payload where
  rules := .ofList [(.assign, ⟨false, some (.ofList ["status"]), none, none⟩)]
  autoTimestamp := true
  autoVersion := true
  failOnError := true
  checks := none

/-- The request to close a case with bookkeeping of its own: an old time that is incremented, and a count that
is assigned, removed twice and appended to. -/
def backdated : Request where
  key := caseKey
  assign := .ofList [("version", .text "9"), ("status", .text "closed")]
  remove := ["version", "version"]
  increment := .ofList [("lastUpdated", .text "1970")]
  append := .ofList [("version", .null)]
  named := by decide

/-- Both requests come to one update, which has the time and the count right. -/
theorem compile_withAutoFields_backdated :
    ∃ u is, (backdated.withAutoFields casePolicy.effective "2024").compile "cases" casePolicy.effective = .ok u ∧
      (closing.withAutoFields casePolicy.effective "2024").compile "cases" casePolicy.effective = .ok u ∧
      u.instructions? = some is ∧
      is.filter (fun i => i.field = "lastUpdated") = [.assign "lastUpdated" (.text "2024")] ∧
      is.filter (fun i => i.field = "version") = [.increment "version" (.number "1")] := by
  have hdropped : backdated.withoutAutoFields casePolicy = closing.withoutAutoFields casePolicy := by
    refine ext rfl (OrderedMap.ext rfl) ?_ (OrderedMap.ext rfl) (OrderedMap.ext rfl)
    decide
  obtain ⟨hsame, hread⟩ := compile_withAutoFields_eq hdropped "cases" "2024"
  have hok : ((closing.withAutoFields casePolicy.effective "2024").compile "cases"
      casePolicy.effective).isOk = true := by
    decide +kernel
  cases hu : (closing.withAutoFields casePolicy.effective "2024").compile "cases" casePolicy.effective with
  | error e =>
    rw [hu] at hok
    cases hok
  | ok u =>
    obtain ⟨is, his, htime, hcount⟩ := hread u (hsame.trans hu)
    exact ⟨u, is, hsame.trans hu, rfl, his, htime rfl, hcount rfl⟩

end Amend.Request
