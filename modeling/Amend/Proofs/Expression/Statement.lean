import Amend.Proofs.Expression.Lexeme

/-!
# Statements

A statement is what the text of an update expression says: fields that are set, each to an operand or the
sum of two, and fields that are removed. `Statement.lexemes` is the grammar: it spells a statement as a
row of lexemes, clause by clause, with commas inside a clause. `Statement.ofText?` reads a text.

The two agree: a text is read as a statement exactly if its lexemes spell that statement
(`ofText?_eq_some_iff`), so no text can be read in two ways (`IsReadingOf.unique`). Each reader of a part
returns what follows the part, and its two lemmas are stated with that rest.
-/

namespace Amend.Expression

/-! ## Grammar -/

/-- What can be added, or stand for itself, on the right of an assignment. -/
inductive Operand where
  | name (token : String)
  | value (token : String)
  /-- The field, or another operand where the record has no such field. -/
  | ifNotExists (token : String) (other : Operand)
  | listAppend (first second : Operand)
  deriving DecidableEq, Repr

/-- How an operand is spelled. -/
def Operand.lexemes : Operand → List Lexeme
  | .name t => [.name t]
  | .value t => [.value t]
  | .ifNotExists t o =>
    .word "if_not_exists" :: .opening :: .name t :: .comma :: (o.lexemes ++ [.closing])
  | .listAppend a b =>
    .word "list_append" :: .opening :: (a.lexemes ++ .comma :: (b.lexemes ++ [.closing]))

/-- The right-hand side of an assignment. -/
inductive Source where
  | operand (o : Operand)
  | sum (first second : Operand)
  deriving DecidableEq, Repr

/-- How a right-hand side is spelled. -/
def Source.lexemes : Source → List Lexeme
  | .operand o => o.lexemes
  | .sum a b => a.lexemes ++ .word "+" :: b.lexemes

/-- A field that is set. -/
structure Assignment where
  target : String
  source : Source
  deriving DecidableEq, Repr

/-- How an assignment is spelled. -/
def Assignment.lexemes (a : Assignment) : List Lexeme :=
  .name a.target :: .word "=" :: a.source.lexemes

/-- How a removed field is spelled. -/
def removalLexemes (token : String) : List Lexeme := [.name token]

/-- How things in a row are spelled. -/
def rowLexemes {α : Type} (spell : α → List Lexeme) (xs : List α) : List Lexeme :=
  [Lexeme.comma].intercalate (xs.map spell)

/-- How a clause is spelled. A clause of nothing is left out. -/
def clauseLexemes {α : Type} (word : String) (spell : α → List Lexeme) (xs : List α) : List Lexeme :=
  if xs.isEmpty then [] else .word word :: rowLexemes spell xs

/-- What an update expression says, by the tokens of its placeholders. -/
structure Statement where
  assignments : List Assignment
  removals : List String
  deriving DecidableEq, Repr

namespace Statement

/-- How a statement is spelled. -/
def lexemes (s : Statement) : List Lexeme :=
  clauseLexemes "SET" Assignment.lexemes s.assignments ++ clauseLexemes "REMOVE" removalLexemes s.removals

/-- A text says a statement, and the statement says something. -/
def IsReadingOf (s : Statement) (text : String) : Prop :=
  (s.assignments ≠ [] ∨ s.removals ≠ []) ∧ Lexeme.ofText text = s.lexemes

end Statement

/-! ## Readers -/

/-- Reads an operand. Each operand inside another one is shorter, so the number of lexemes bounds the
depth. -/
def Operand.read? : Nat → List Lexeme → Option (Operand × List Lexeme)
  | 0, _ => none
  | n + 1, ls =>
    match ls with
    | .name t :: rest => some (.name t, rest)
    | .value t :: rest => some (.value t, rest)
    | .word "if_not_exists" :: .opening :: .name t :: .comma :: rest =>
      match read? n rest with
      | some (o, .closing :: rest) => some (.ifNotExists t o, rest)
      | _ => none
    | .word "list_append" :: .opening :: rest =>
      match read? n rest with
      | some (a, .comma :: rest) =>
        match read? n rest with
        | some (b, .closing :: rest) => some (.listAppend a b, rest)
        | _ => none
      | _ => none
    | _ => none

/-- Reads a right-hand side. -/
def Source.read? (ls : List Lexeme) : Option (Source × List Lexeme) :=
  match Operand.read? ls.length ls with
  | some (a, .word "+" :: rest) =>
    match Operand.read? rest.length rest with
    | some (b, rest) => some (.sum a b, rest)
    | none => none
  | some (a, rest) => some (.operand a, rest)
  | none => none

/-- Reads an assignment. -/
def Assignment.read? : List Lexeme → Option (Assignment × List Lexeme)
  | .name t :: .word "=" :: rest =>
    match Source.read? rest with
    | some (s, rest) => some (⟨t, s⟩, rest)
    | none => none
  | _ => none

/-- Reads the name of a removed field. -/
def readRemoval? : List Lexeme → Option (String × List Lexeme)
  | .name t :: rest => some (t, rest)
  | _ => none

/-- Reads things in a row, at least one and at most as many as the first argument says. -/
def readRow? {α : Type} (read? : List Lexeme → Option (α × List Lexeme)) :
    Nat → List Lexeme → Option (List α × List Lexeme)
  | 0, _ => none
  | n + 1, ls =>
    match read? ls with
    | some (x, .comma :: rest) =>
      match readRow? read? n rest with
      | some (xs, rest) => some (x :: xs, rest)
      | none => none
    | some (x, rest) => some ([x], rest)
    | none => none

/-- Reads a clause, if it is there. -/
def readClause? {α : Type} (word : String) (read? : List Lexeme → Option (α × List Lexeme))
    (ls : List Lexeme) : Option (List α × List Lexeme) :=
  if ls.head? = some (.word word) then readRow? read? ls.length ls.tail else some ([], ls)

/-- Reads a statement. -/
def Statement.ofText? (text : String) : Option Statement :=
  match readClause? "SET" Assignment.read? (Lexeme.ofText text) with
  | some (assignments, rest) =>
    match readClause? "REMOVE" readRemoval? rest with
    | some (removals, []) =>
      if assignments.isEmpty && removals.isEmpty then none else some ⟨assignments, removals⟩
    | _ => none
  | none => none

/-! ## What is read was spelled -/

/-- An operand that is read stood at the front. -/
theorem Operand.eq_of_read? {n : Nat} {ls rest : List Lexeme} {o : Operand}
    (h : Operand.read? n ls = some (o, rest)) : ls = o.lexemes ++ rest := by
  induction n generalizing ls o rest with
  | zero => cases h
  | succ n ih =>
    unfold Operand.read? at h
    split at h
    · cases h
      rfl
    · cases h
      rfl
    · split at h
      · rename_i ho
        cases h
        rw [ih ho]
        simp [Operand.lexemes]
      · cases h
    · split at h
      · rename_i ha
        split at h
        · rename_i hb
          cases h
          rw [ih ha, ih hb]
          simp [Operand.lexemes]
        · cases h
      · cases h
    · cases h

/-- A right-hand side that is read stood at the front. -/
theorem Source.eq_of_read? {ls rest : List Lexeme} {s : Source}
    (h : Source.read? ls = some (s, rest)) : ls = s.lexemes ++ rest := by
  rw [Source.read?] at h
  split at h
  · rename_i ha
    split at h
    · rename_i hb
      cases h
      rw [Operand.eq_of_read? ha, Operand.eq_of_read? hb]
      simp [Source.lexemes]
    · cases h
  · rename_i ha
    cases h
    exact Operand.eq_of_read? ha
  · cases h

/-- An assignment that is read stood at the front. -/
theorem Assignment.eq_of_read? {ls rest : List Lexeme} {a : Assignment}
    (h : Assignment.read? ls = some (a, rest)) : ls = a.lexemes ++ rest := by
  unfold Assignment.read? at h
  split at h
  · split at h
    · rename_i hs
      cases h
      rw [Source.eq_of_read? hs]
      rfl
    · cases h
  · cases h

/-- The name of a removed field that is read stood at the front. -/
theorem eq_of_readRemoval? {ls rest : List Lexeme} {t : String}
    (h : readRemoval? ls = some (t, rest)) : ls = removalLexemes t ++ rest := by
  unfold readRemoval? at h
  split at h
  · cases h
    rfl
  · cases h

section Row

variable {α : Type} {read? : List Lexeme → Option (α × List Lexeme)} {spell : α → List Lexeme}

/-- Things that are read in a row stood at the front, and there is at least one. -/
theorem eq_of_readRow? (hread : ∀ ls x rest, read? ls = some (x, rest) → ls = spell x ++ rest)
    {n : Nat} {ls rest : List Lexeme} {xs : List α} (h : readRow? read? n ls = some (xs, rest)) :
    xs ≠ [] ∧ ls = rowLexemes spell xs ++ rest := by
  induction n generalizing ls xs rest with
  | zero => cases h
  | succ n ih =>
    rw [readRow?] at h
    split at h
    · rename_i hx
      split at h
      · rename_i hxs
        cases h
        obtain ⟨hne, heq⟩ := ih hxs
        refine ⟨List.cons_ne_nil _ _, ?_⟩
        rw [hread _ _ _ hx, heq]
        obtain ⟨y, ys, rfl⟩ := List.exists_cons_of_ne_nil hne
        simp [rowLexemes, List.intercalate_cons_cons]
      · cases h
    · rename_i hx
      cases h
      exact ⟨List.cons_ne_nil _ _, by simpa [rowLexemes] using hread _ _ _ hx⟩
    · cases h

/-- A clause that is read stood at the front. -/
theorem eq_of_readClause? (hread : ∀ ls x rest, read? ls = some (x, rest) → ls = spell x ++ rest)
    {word : String} {ls rest : List Lexeme} {xs : List α}
    (h : readClause? word read? ls = some (xs, rest)) : ls = clauseLexemes word spell xs ++ rest := by
  rw [readClause?] at h
  split at h
  · rename_i hw
    obtain ⟨tail, rfl⟩ := List.head?_eq_some_iff.1 hw
    obtain ⟨hne, heq⟩ := eq_of_readRow? hread h
    rw [clauseLexemes, if_neg (by simpa using hne), List.cons_append, ← heq]
    rfl
  · cases h
    rfl

/-! ## What is spelled is read -/

/-- Things in a row are read to the last, if each of them is read before whatever may follow it, and
what follows the last is no comma. -/
theorem readRow?_rowLexemes (follows : List Lexeme → Prop) (hpos : ∀ x, spell x ≠ [])
    (hread : ∀ x rest, follows rest → read? (spell x ++ rest) = some (x, rest))
    (hcomma : ∀ rest, follows (.comma :: rest)) {xs : List α} (hne : xs ≠ []) {n : Nat}
    (hn : (rowLexemes spell xs).length ≤ n) {rest : List Lexeme} (hrest : follows rest)
    (hlast : rest.head? ≠ some .comma) :
    readRow? read? n (rowLexemes spell xs ++ rest) = some (xs, rest) := by
  induction n generalizing xs with
  | zero =>
    obtain ⟨x, xs, rfl⟩ := List.exists_cons_of_ne_nil hne
    have hnil : rowLexemes spell (x :: xs) = [] := List.eq_nil_of_length_eq_zero (Nat.le_zero.1 hn)
    cases xs with
    | nil => exact absurd (by simpa [rowLexemes] using hnil) (hpos x)
    | cons y ys => simp [rowLexemes, List.intercalate_cons_cons] at hnil
  | succ n ih =>
    obtain ⟨x, xs, rfl⟩ := List.exists_cons_of_ne_nil hne
    rw [readRow?]
    cases xs with
    | nil =>
      have hx : read? (rowLexemes spell [x] ++ rest) = some (x, rest) := by
        simpa [rowLexemes] using hread x rest hrest
      rw [hx]
      cases rest with
      | nil => rfl
      | cons l rest => cases l <;> first | rfl | exact absurd rfl hlast
    | cons y ys =>
      have hrow : rowLexemes spell (x :: y :: ys) ++ rest =
          spell x ++ .comma :: (rowLexemes spell (y :: ys) ++ rest) := by
        simp [rowLexemes, List.intercalate_cons_cons]
      have hlen : (rowLexemes spell (y :: ys)).length ≤ n := by
        simp only [rowLexemes, List.map_cons, List.intercalate_cons_cons, List.length_append,
          List.length_singleton] at hn ⊢
        omega
      rw [hrow, hread x _ (hcomma _)]
      show (match readRow? read? n (rowLexemes spell (y :: ys) ++ rest) with
        | some (xs, rest) => some (x :: xs, rest)
        | none => none) = _
      rw [ih (List.cons_ne_nil _ _) hlen]

/-- A clause is read to its end, if what follows it starts neither with a comma nor like it. -/
theorem readClause?_clauseLexemes (follows : List Lexeme → Prop) (hpos : ∀ x, spell x ≠ [])
    (hread : ∀ x rest, follows rest → read? (spell x ++ rest) = some (x, rest))
    (hcomma : ∀ rest, follows (.comma :: rest)) {word : String} (xs : List α) {rest : List Lexeme}
    (hrest : follows rest) (hlast : rest.head? ≠ some .comma)
    (hword : rest.head? ≠ some (.word word)) :
    readClause? word read? (clauseLexemes word spell xs ++ rest) = some (xs, rest) := by
  cases xs with
  | nil =>
    show readClause? word read? rest = _
    rw [readClause?, if_neg hword]
  | cons x xs =>
    rw [clauseLexemes, if_neg (by simp), List.cons_append, readClause?, if_pos List.head?_cons]
    refine readRow?_rowLexemes follows hpos hread hcomma (List.cons_ne_nil _ _) ?_ hrest hlast
    simp only [List.length_cons, List.length_append]
    omega

end Row

/-- An operand is read before whatever follows it. -/
theorem Operand.read?_lexemes (o : Operand) {n : Nat} (hn : o.lexemes.length ≤ n)
    (rest : List Lexeme) : Operand.read? n (o.lexemes ++ rest) = some (o, rest) := by
  induction o generalizing n rest with
  | name t | value t =>
    obtain ⟨m, rfl⟩ : ∃ m, n = m + 1 := ⟨n - 1, by simp [Operand.lexemes] at hn; omega⟩
    rfl
  | ifNotExists t o ih =>
    simp only [Operand.lexemes, List.length_cons, List.length_append] at hn
    obtain ⟨m, rfl⟩ : ∃ m, n = m + 1 := ⟨n - 1, by omega⟩
    have ho := ih (n := m) (by omega) (.closing :: rest)
    simp [Operand.lexemes, Operand.read?, ho]
  | listAppend a b iha ihb =>
    simp only [Operand.lexemes, List.length_cons, List.length_append] at hn
    obtain ⟨m, rfl⟩ : ∃ m, n = m + 1 := ⟨n - 1, by omega⟩
    have hb := ihb (n := m) (by omega) (.closing :: rest)
    have ha := iha (n := m) (by omega) (.comma :: (b.lexemes ++ .closing :: rest))
    simp [Operand.lexemes, Operand.read?, ha, hb]

/-- A right-hand side is read before whatever does not go on with the sum. -/
theorem Source.read?_lexemes (s : Source) {rest : List Lexeme}
    (hrest : rest.head? ≠ some (.word "+")) : Source.read? (s.lexemes ++ rest) = some (s, rest) := by
  cases s with
  | operand o =>
    rw [Source.read?, Source.lexemes, Operand.read?_lexemes o (by simp)]
    split
    · rename_i heq
      cases heq
      exact absurd rfl hrest
    · rename_i heq
      cases heq
      rfl
    · rename_i heq
      cases heq
  | sum a b =>
    have hsum : (Source.sum a b).lexemes ++ rest = a.lexemes ++ .word "+" :: (b.lexemes ++ rest) := by
      simp [Source.lexemes]
    rw [hsum, Source.read?, Operand.read?_lexemes a (by simp)]
    show (match Operand.read? _ (b.lexemes ++ rest) with
      | some (b, rest) => some (Source.sum a b, rest)
      | none => none) = _
    rw [Operand.read?_lexemes b (by simp)]

/-- An assignment is read before whatever does not go on with its sum. -/
theorem Assignment.read?_lexemes (a : Assignment) {rest : List Lexeme}
    (hrest : rest.head? ≠ some (.word "+")) :
    Assignment.read? (a.lexemes ++ rest) = some (a, rest) := by
  rw [Assignment.lexemes, List.cons_append, List.cons_append, Assignment.read?,
    Source.read?_lexemes a.source hrest]

namespace Statement

/-! ## Reading a text -/

/-- The first lexeme of a clause, if it has any, is its word. -/
theorem head?_clauseLexemes {α : Type} (word : String) (spell : α → List Lexeme) (xs : List α) :
    (clauseLexemes word spell xs).head? = none ∨
      (clauseLexemes word spell xs).head? = some (.word word) := by
  cases xs with
  | nil => exact Or.inl rfl
  | cons x xs => exact Or.inr rfl

/-- A statement is read off the text that says it. -/
theorem IsReadingOf.ofText?_eq {s : Statement} {text : String} (h : s.IsReadingOf text) :
    ofText? text = some s := by
  obtain ⟨hsome, hlex⟩ := h
  have hremove : (clauseLexemes "REMOVE" removalLexemes s.removals).head? ≠ some .comma ∧
      (clauseLexemes "REMOVE" removalLexemes s.removals).head? ≠ some (.word "+") ∧
      (clauseLexemes "REMOVE" removalLexemes s.removals).head? ≠ some (.word "SET") := by
    rcases head?_clauseLexemes "REMOVE" removalLexemes s.removals with hr | hr <;> rw [hr] <;> decide
  have hset : readClause? "SET" Assignment.read? s.lexemes =
      some (s.assignments, clauseLexemes "REMOVE" removalLexemes s.removals) :=
    readClause?_clauseLexemes (fun rest => rest.head? ≠ some (.word "+"))
      (fun a => List.cons_ne_nil _ _) (fun a rest hrest => Assignment.read?_lexemes a hrest)
      (fun rest => by simp) s.assignments hremove.2.1 hremove.1 hremove.2.2
  have hrem : readClause? "REMOVE" readRemoval? (clauseLexemes "REMOVE" removalLexemes s.removals) =
      some (s.removals, []) := by
    have hread : readClause? "REMOVE" readRemoval?
        (clauseLexemes "REMOVE" removalLexemes s.removals ++ []) = some (s.removals, []) :=
      readClause?_clauseLexemes (fun _ => True) (fun t => List.cons_ne_nil _ _) (fun t rest _ => rfl)
        (fun _ => trivial) s.removals trivial (by simp) (by simp)
    rwa [List.append_nil] at hread
  have hne : (s.assignments.isEmpty && s.removals.isEmpty) = false := by
    rw [Bool.and_eq_false_iff]
    simpa using hsome
  rw [ofText?, hlex, hset]
  simp only [hrem, hne]
  rfl

/-- A text says the statement that is read off it. -/
theorem isReadingOf_of_ofText? {s : Statement} {text : String} (h : ofText? text = some s) :
    s.IsReadingOf text := by
  rw [ofText?] at h
  split at h
  · rename_i hset
    split at h
    · rename_i hrem
      split at h
      · cases h
      · rename_i hne
        cases h
        refine ⟨?_, ?_⟩
        · rw [Bool.not_eq_true, Bool.and_eq_false_iff] at hne
          simpa using hne
        · rw [eq_of_readClause? (fun _ _ _ => Assignment.eq_of_read?) hset,
            eq_of_readClause? (fun _ _ _ => eq_of_readRemoval?) hrem, List.append_nil]
          rfl
    · cases h
  · cases h

/-- A text is read as a statement exactly if it says that statement. -/
theorem ofText?_eq_some_iff {s : Statement} {text : String} :
    ofText? text = some s ↔ s.IsReadingOf text :=
  ⟨isReadingOf_of_ofText?, IsReadingOf.ofText?_eq⟩

/-- No text says two statements. -/
theorem IsReadingOf.unique {s t : Statement} {text : String} (hs : s.IsReadingOf text)
    (ht : t.IsReadingOf text) : s = t := by
  rw [← ofText?_eq_some_iff] at hs ht
  exact Option.some.inj (hs.symm.trans ht)

end Statement

end Amend.Expression
