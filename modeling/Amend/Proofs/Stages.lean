import Amend.Rejection

/-!
# Stages

What comes from outside is read in stages, each of which goes on from what the one before it has given. Two
stages give something if both do, and they fail as the first of them that fails; so what is answered is the first
fault of all (`FirstFault`). `Fails` bounds what goes wrong in a stage, and `Fails.bind` what goes wrong in two of
them: the kinds of rejections (`FailsOnly`), or that a rejection can be told (`Tells`).
-/

namespace Amend

section Outcomes

variable {ε α β γ : Type} {x : Except ε α} {y : Except ε β}

/-- What a stage gives, if it gives something. -/
theorem toOption_eq_some_iff {a : α} : x.toOption = some a ↔ x = .ok a := by
  cases x with
  | ok b =>
    show some b = some a ↔ _
    rw [Option.some.injEq, Except.ok.injEq]
  | error e => exact iff_of_false nofun nofun

/-- Two stages give something if the first does and the second does on it. -/
theorem bind_eq_ok_iff {k : α → Except ε β} {b : β} :
    (x >>= k) = .ok b ↔ ∃ a, x = .ok a ∧ k a = .ok b := by
  cases x with
  | ok a =>
    constructor
    · exact fun h => ⟨a, rfl, h⟩
    · rintro ⟨_, ⟨⟩, h⟩
      exact h
  | error e => exact iff_of_false nofun fun ⟨_, h, _⟩ => nomatch h

/-- Two stages fail if the first does, or if the second does on what the first gives. -/
theorem bind_eq_error_iff {k : α → Except ε β} {e : ε} :
    (x >>= k) = .error e ↔ x = .error e ∨ ∃ a, x = .ok a ∧ k a = .error e := by
  cases x with
  | ok a =>
    constructor
    · exact fun h => .inr ⟨a, rfl, h⟩
    · rintro (h | ⟨_, ⟨⟩, h⟩)
      · cases h
      · exact h
  | error f =>
    constructor
    · rintro ⟨⟩
      exact .inl rfl
    · rintro (h | ⟨_, h, -⟩)
      · cases h
        rfl
      · cases h

/-- Nothing is wrong with what gives something. -/
theorem forall_ne_error_iff : (∀ e, x ≠ .error e) ↔ ∃ a, x = .ok a := by
  cases x with
  | ok a => exact iff_of_true nofun ⟨a, rfl⟩
  | error e => exact iff_of_false (fun h => h e rfl) nofun

/-- Something is wrong with what gives nothing. -/
theorem exists_eq_error_iff : (∃ e, x = .error e) ↔ ¬ ∃ a, x = .ok a := by
  cases x with
  | ok a => exact iff_of_false nofun fun h => h ⟨a, rfl⟩
  | error e => exact iff_of_true ⟨e, rfl⟩ nofun

/-- Where it makes no difference to a fault of the second stage what the first one gives, the stages fail if the
first does, or if it does not and the second does. -/
theorem bind_eq_error_iff_or {k : α → Except ε β} {e : ε} {fault : Prop}
    (hk : ∀ a, k a = .error e ↔ fault) :
    (x >>= k) = .error e ↔ x = .error e ∨ (∀ f, x ≠ .error f) ∧ fault := by
  simp only [bind_eq_error_iff, hk, forall_ne_error_iff]
  exact or_congr_right ⟨fun ⟨a, ha, h⟩ => ⟨⟨a, ha⟩, h⟩, fun ⟨⟨a, ha⟩, h⟩ => ⟨a, ha, h⟩⟩

/-- What is made of a stage in the end does not fail by itself. -/
theorem bind_ok_eq_error_iff {f : α → β} {e : ε} : (x >>= fun a => .ok (f a)) = .error e ↔ x = .error e := by
  simp [bind_eq_error_iff]

/-- A stage and what is made of it give something if the stage does. -/
theorem exists_map_eq_ok_iff {f : α → β} :
    (∃ b, (x >>= fun a => .ok (f a)) = .ok b) ↔ ∃ a, x = .ok a := by
  simp only [bind_eq_ok_iff]
  constructor
  · rintro ⟨-, a, ha, -⟩
    exact ⟨a, ha⟩
  · rintro ⟨a, ha⟩
    exact ⟨f a, a, ha, rfl⟩

/-- Two stages that do not look at each other give something if both do. -/
theorem exists_map₂_eq_ok_iff {f : α → β → γ} :
    (∃ c, (x >>= fun a => y >>= fun b => .ok (f a b)) = .ok c) ↔ (∃ a, x = .ok a) ∧ ∃ b, y = .ok b := by
  simp only [bind_eq_ok_iff]
  constructor
  · rintro ⟨-, a, ha, b, hb, -⟩
    exact ⟨⟨a, ha⟩, b, hb⟩
  · rintro ⟨⟨a, ha⟩, b, hb⟩
    exact ⟨f a b, a, ha, b, hb, rfl⟩

end Outcomes

/-! ## The first fault -/

/-- The first of some things that is at fault has this fault. -/
def FirstFault {ι ε : Type} (fault : ι → ε → Prop) (xs : List ι) (e : ε) : Prop :=
  ∃ front x back, xs = front ++ x :: back ∧ (∀ y ∈ front, ∀ f, ¬ fault y f) ∧ fault x e

section FirstFault

variable {ι ε : Type} {fault : ι → ε → Prop} {x : ι} {xs : List ι} {e : ε}

/-- Where there is nothing, nothing is at fault. -/
theorem not_firstFault_nil : ¬ FirstFault fault [] e := by
  rintro ⟨front, x, back, hsplit, -⟩
  simp at hsplit

/-- Either the first thing is at fault, or it is not and the first fault is among the others. -/
theorem firstFault_cons_iff :
    FirstFault fault (x :: xs) e ↔ fault x e ∨ (∀ f, ¬ fault x f) ∧ FirstFault fault xs e := by
  constructor
  · rintro ⟨front, y, back, hsplit, hfront, hy⟩
    cases front with
    | nil =>
      cases hsplit
      exact .inl hy
    | cons _ front =>
      cases hsplit
      rw [List.forall_mem_cons] at hfront
      exact .inr ⟨hfront.1, front, y, back, rfl, hfront.2, hy⟩
  · rintro (hx | ⟨hx, front, y, back, rfl, hfront, hy⟩)
    · exact ⟨[], x, xs, rfl, nofun, hx⟩
    · exact ⟨x :: front, y, back, rfl, List.forall_mem_cons.2 ⟨hx, hfront⟩, hy⟩

/-- The first fault depends on the faults of each thing only. -/
theorem FirstFault.congr {fault' : ι → ε → Prop} (h : ∀ x ∈ xs, ∀ e, fault x e ↔ fault' x e) :
    FirstFault fault xs e ↔ FirstFault fault' xs e := by
  induction xs with
  | nil => exact iff_of_false not_firstFault_nil not_firstFault_nil
  | cons x rest ih =>
    rw [List.forall_mem_cons] at h
    simp only [firstFault_cons_iff, h.1, ih h.2]

/-- Of things that are made of others, the faults are those of the others. -/
theorem firstFault_map_iff {κ : Type} {make : κ → ι} {ks : List κ} :
    FirstFault fault (ks.map make) e ↔ FirstFault (fun k => fault (make k)) ks e := by
  induction ks with
  | nil => exact iff_of_false not_firstFault_nil not_firstFault_nil
  | cons k rest ih => rw [List.map_cons, firstFault_cons_iff, firstFault_cons_iff, ih]

end FirstFault

/-! ## What goes wrong -/

/-- Whatever goes wrong in a stage is of some sort. -/
def Fails {ε α : Type} (sort : ε → Prop) (x : Except ε α) : Prop :=
  ∀ e, x = .error e → sort e

section Fails

variable {ε α β : Type} {sort : ε → Prop}

/-- Where nothing goes wrong, nothing of another sort does. -/
theorem fails_ok (a : α) : Fails sort (.ok a) := fun _ h => nomatch h

/-- What goes wrong is of its sort. -/
theorem fails_error {e : ε} (h : sort e) : Fails sort (.error e : Except ε α) := by
  rintro _ ⟨⟩
  exact h

/-- One stage after another fails as either does. -/
theorem Fails.bind {x : Except ε α} {k : α → Except ε β} (hx : Fails sort x) (hk : ∀ a, Fails sort (k a)) :
    Fails sort (x >>= k) := by
  cases x with
  | ok a => exact hk a
  | error e => exact fails_error (hx e rfl)

end Fails

/-- What goes wrong is of one of some kinds. -/
abbrev FailsOnly {α : Type} (kinds : List RejectionKind) (x : Except Rejection α) : Prop :=
  Fails (fun e => e.kind ∈ kinds) x

/-- More kinds do as well. -/
theorem FailsOnly.mono {α : Type} {kinds more : List RejectionKind} {x : Except Rejection α}
    (h : FailsOnly kinds x) (hsub : kinds ⊆ more) : FailsOnly more x :=
  fun e he => hsub (h e he)

/-! ## What is told -/

/-- Whatever goes wrong can be told. -/
abbrev Tells {ε α : Type} [Worded ε] (x : Except ε α) : Prop :=
  Fails (fun e => Worded.isTellable e = true) x

section Telling

variable {ε α : Type} [Worded ε] {x : Except ε α}

/-- A call gives what its part gives. -/
@[simp] theorem orRefuse_eq_ok_iff {a : α} : orRefuse x = .ok a ↔ x = .ok a := by
  cases x with
  | ok b => rw [orRefuse, Except.ok.injEq, Except.ok.injEq]
  | error e => exact iff_of_false nofun nofun

/-- A call is refused for the reason that its part has found, if it can be told. -/
theorem orRefuse_eq_refused_iff {e : ε} :
    orRefuse x = .error (.refused e) ↔ x = .error e ∧ Worded.isTellable e = true := by
  cases x with
  | ok b => exact iff_of_false nofun fun h => nomatch h.1
  | error e' =>
    rw [orRefuse, refuse, Except.error.injEq, told_eq_refused_iff, Except.error.injEq]
    constructor
    · rintro ⟨h, rfl⟩
      exact ⟨rfl, h⟩
    · rintro ⟨rfl, h⟩
      exact ⟨h, rfl⟩

/-- A call ends in a fault if its part has found a reason that cannot be told. -/
theorem orRefuse_eq_fault_iff {f : Fault} :
    orRefuse x = .error (.fault f) ↔
      (∃ e, x = .error e ∧ Worded.isTellable e = false) ∧ f = .longInteger := by
  cases x with
  | ok b => exact iff_of_false nofun fun ⟨⟨_, h, _⟩, _⟩ => nomatch h
  | error e =>
    rw [orRefuse, refuse, Except.error.injEq, told_eq_fault_iff]
    constructor
    · rintro ⟨h, rfl⟩
      exact ⟨⟨e, rfl, h⟩, rfl⟩
    · rintro ⟨⟨_, ⟨⟩, h⟩, rfl⟩
      exact ⟨h, rfl⟩

/-- Where everything that goes wrong can be told, there is no fault. -/
theorem Tells.orRefuse_ne_fault (h : Tells x) (f : Fault) : orRefuse x ≠ .error (.fault f) := by
  rintro hfault
  obtain ⟨⟨e, he, htold⟩, -⟩ := orRefuse_eq_fault_iff.1 hfault
  exact Bool.false_ne_true (htold.symm.trans (h e he))

end Telling

end Amend
