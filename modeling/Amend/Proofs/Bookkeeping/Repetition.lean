import Amend.Proofs.Bookkeeping.Injection

/-!
# Bookkeeping fields written again

A request whose bookkeeping fields are written is known by what it was before (`Bookkept`): every entry on
another field is there, in its bucket and in its place, and behind them stands the entry that is written. Nothing
of an earlier time or count is left, so writing the fields again is the same as writing them only the last time
(`Request.withAutoFields_withAutoFields`).
-/

namespace Amend

namespace Policy

variable {α : Type} (p : Policy α)

/-- A field is one of the bookkeeping fields that a policy keeps. -/
def Keeps (f : String) : Prop :=
  f ∈ p.autoFields.map Prod.fst

instance (f : String) : Decidable (p.Keeps f) :=
  inferInstanceAs (Decidable (f ∈ p.autoFields.map Prod.fst))

/-- The entries that are written are on the fields that the policy keeps, in this order. -/
theorem map_fst_written (stamp : String) :
    (p.timeEntries stamp).map Prod.fst ++ p.countEntries.map Prod.fst = p.autoFields.map Prod.fst := by
  unfold autoFields timeEntries countEntries
  cases p.autoTimestamp <;> cases p.autoVersion <;> rfl

/-- The two bookkeeping fields are different ones. -/
theorem nodup_autoFields : (p.autoFields.map Prod.fst).Nodup := by
  unfold autoFields
  cases p.autoTimestamp <;> cases p.autoVersion <;> simp [timestampField, versionField]

/-- The entries that are written are on the fields that the policy keeps, each of them once. -/
theorem count_written (stamp f : String) :
    ((p.timeEntries stamp).map Prod.fst).count f + (p.countEntries.map Prod.fst).count f =
      if p.Keeps f then 1 else 0 := by
  rw [← List.count_append, map_fst_written, p.nodup_autoFields.count]
  rfl

end Policy

namespace Request

variable {α : Type} {p : Policy α}

/-! ## Requests without some fields -/

/-- Dropping what is said about several fields is dropping what is said about each. -/
theorem filter_notMem_cons {β : Type} (field : β → String) (f : String) (fs : List String) (xs : List β) :
    xs.filter (fun x => field x ∉ f :: fs) =
      (xs.filter fun x => field x ≠ f).filter fun x => field x ∉ fs := by
  rw [List.filter_filter]
  refine List.filter_congr fun x _ => ?_
  simp [Bool.and_comm]

/-- A request lacks some fields of another one, and differs from it in nothing else. -/
structure Lacks (fs : List String) (r s : Request) : Prop where
  key : s.key = r.key
  assign : s.assign.entries = r.assign.entries.filter fun e => e.1 ∉ fs
  remove : s.remove = r.remove.filter fun f => f ∉ fs
  increment : s.increment.entries = r.increment.entries.filter fun e => e.1 ∉ fs
  append : s.append.entries = r.append.entries.filter fun e => e.1 ∉ fs

/-- Fields that are dropped one after another are lacking. -/
theorem lacks_foldl_without (es : List (String × Action)) (r : Request) :
    Lacks (es.map Prod.fst) r (es.foldl (fun r e => r.without e.1) r) := by
  induction es generalizing r with
  | nil => constructor <;> simp
  | cons e rest ih =>
    obtain ⟨hkey, hassign, hremove, hincrement, happend⟩ := ih (r.without e.1)
    exact ⟨hkey,
      hassign.trans (filter_notMem_cons Prod.fst e.1 (rest.map Prod.fst) r.assign.entries).symm,
      hremove.trans (filter_notMem_cons id e.1 (rest.map Prod.fst) r.remove).symm,
      hincrement.trans (filter_notMem_cons Prod.fst e.1 (rest.map Prod.fst) r.increment.entries).symm,
      happend.trans (filter_notMem_cons Prod.fst e.1 (rest.map Prod.fst) r.append.entries).symm⟩

/-! ## Requests with their bookkeeping fields -/

/-- A request is another one with the bookkeeping fields of a policy written: the entries on other fields stay
as they are, the time is assigned last, and the count is incremented last, by one. -/
structure Bookkept (p : Policy α) (stamp : String) (r s : Request) : Prop where
  key : s.key = r.key
  assign : s.assign.entries = (r.assign.entries.filter fun e => ¬ p.Keeps e.1) ++ p.timeEntries stamp
  remove : s.remove = r.remove.filter fun f => ¬ p.Keeps f
  increment : s.increment.entries = (r.increment.entries.filter fun e => ¬ p.Keeps e.1) ++ p.countEntries
  append : s.append.entries = r.append.entries.filter fun e => ¬ p.Keeps e.1

/-- Writing the bookkeeping fields has this effect. -/
theorem bookkept_withAutoFields (r : Request) (p : Policy α) (stamp : String) :
    Bookkept p stamp r (r.withAutoFields p stamp) := by
  have hlacks : Lacks (p.autoFields.map Prod.fst) r (r.withoutAutoFields p) := lacks_foldl_without _ r
  refine ⟨key_withAutoFields r p stamp, ?_, ?_, ?_, ?_⟩
  · rw [assign_withAutoFields, hlacks.assign]
    rfl
  · rw [remove_withAutoFields, hlacks.remove]
    rfl
  · rw [increment_withAutoFields, hlacks.increment]
    rfl
  · rw [append_withAutoFields, hlacks.append]
    rfl

/-- There is one such request. -/
theorem Bookkept.unique {stamp : String} {r s t : Request} (hs : Bookkept p stamp r s)
    (ht : Bookkept p stamp r t) : s = t :=
  ext (hs.key.trans ht.key.symm) (OrderedMap.ext (hs.assign.trans ht.assign.symm))
    (hs.remove.trans ht.remove.symm) (OrderedMap.ext (hs.increment.trans ht.increment.symm))
    (OrderedMap.ext (hs.append.trans ht.append.symm))

/-- What is written is not among the other entries. -/
theorem filter_written {es : List (String × Value)}
    (h : es.map Prod.fst ⊆ p.autoFields.map Prod.fst) : (es.filter fun e => ¬ p.Keeps e.1) = [] := by
  refine List.filter_eq_nil_iff.2 fun e he => ?_
  have hkeeps : p.Keeps e.1 := h (List.mem_map_of_mem he)
  simpa using hkeeps

/-- The other entries are the same whether or not the bookkeeping fields are written. -/
theorem filter_append_written {xs ys : List (String × Value)}
    (h : ys.map Prod.fst ⊆ p.autoFields.map Prod.fst) :
    (((xs.filter fun e => ¬ p.Keeps e.1) ++ ys).filter fun e => ¬ p.Keeps e.1) =
      xs.filter fun e => ¬ p.Keeps e.1 := by
  rw [List.filter_append, filter_written h, List.append_nil, List.filter_filter]
  simp only [Bool.and_self]

/-- What is written first does not show once it is written again. -/
theorem Bookkept.trans {earlier stamp : String} {r s t : Request} (hs : Bookkept p earlier r s)
    (ht : Bookkept p stamp s t) : Bookkept p stamp r t := by
  have hwritten := p.map_fst_written earlier
  refine ⟨ht.key.trans hs.key, ?_, ?_, ?_, ?_⟩
  · rw [ht.assign, hs.assign, filter_append_written (hwritten ▸ List.subset_append_left ..)]
  · rw [ht.remove, hs.remove, List.filter_filter]
    simp only [Bool.and_self]
  · rw [ht.increment, hs.increment, filter_append_written (hwritten ▸ List.subset_append_right ..)]
  · rw [ht.append, hs.append, List.filter_filter]
    simp only [Bool.and_self]

/-- Among other fields the bookkeeping fields do not occur. -/
theorem count_filter_others (names : List String) (f : String) :
    (names.filter fun g => ¬ p.Keeps g).count f = if p.Keeps f then 0 else names.count f := by
  split
  · rename_i hkeeps
    exact List.count_eq_zero_of_not_mem (by simp [hkeeps])
  · rename_i hother
    exact List.count_filter (decide_eq_true hother)

/-- The names of the other entries are the other names. -/
theorem map_fst_filter_others (es : List (String × Value)) :
    (es.filter fun e => ¬ p.Keeps e.1).map Prod.fst = (es.map Prod.fst).filter fun f => ¬ p.Keeps f := by
  rw [List.filter_map]
  rfl

/-- A field that the policy keeps occurs once, and any other as often as before. -/
theorem Bookkept.count_all {stamp : String} {r s : Request} (h : Bookkept p stamp r s) (f : String) :
    s.fields.all.count f = if p.Keeps f then 1 else r.fields.all.count f := by
  have hwritten := p.count_written stamp f
  simp only [Fields.all_eq, fields, OrderedMap.keys, h.assign, h.remove, h.increment, h.append,
    List.map_append, List.count_append, map_fst_filter_others, count_filter_others]
  by_cases hf : p.Keeps f
  · simp only [if_pos hf] at hwritten ⊢
    omega
  · simp only [if_neg hf] at hwritten ⊢
    omega

/-- Writing the bookkeeping fields twice is writing them the last time, and touches nothing else. -/
theorem withAutoFields_withAutoFields (r : Request) (p : Policy α) (earlier stamp : String) :
    (r.withAutoFields p earlier).withAutoFields p stamp = r.withAutoFields p stamp ∧
      Bookkept p stamp r (r.withAutoFields p stamp) ∧
      ∀ f, (r.withAutoFields p stamp).fields.all.count f = if p.Keeps f then 1 else r.fields.all.count f := by
  have hlast := bookkept_withAutoFields r p stamp
  have htwice := (bookkept_withAutoFields r p earlier).trans
    (bookkept_withAutoFields (r.withAutoFields p earlier) p stamp)
  exact ⟨htwice.unique hlast, hlast, hlast.count_all⟩

end Request
end Amend
