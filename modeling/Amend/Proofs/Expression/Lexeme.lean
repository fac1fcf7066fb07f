import Amend.Expression

/-!
# Lexemes of update expressions

The store reads the text of an update expression as a row of lexemes. A word goes on until a space, a
comma or a parenthesis, so a placeholder is its mark with the longest run of other characters that
follows. Scanning is stated for a text of which a word has begun, because that is what an induction along
the text needs: what stands before a delimiter is then scanned apart from what stands behind it
(`scan_append_delimiter`).
-/

namespace Amend.Expression

/-- A piece of the text of an update expression. -/
inductive Lexeme where
  /-- A word that is no placeholder. -/
  | word (s : String)
  /-- The placeholder of a field, by its token. -/
  | name (token : String)
  /-- The placeholder of a value, by its token. -/
  | value (token : String)
  | comma
  | opening
  | closing
  deriving DecidableEq, Repr

namespace Lexeme

/-- What a delimiter is read as: a space as nothing, a mark as itself. Other characters belong to
words. -/
def delimiter? : Char → Option (List Lexeme)
  | ' ' => some []
  | ',' => some [.comma]
  | '(' => some [.opening]
  | ')' => some [.closing]
  | _ => none

/-- The lexeme of a word, if it has any characters. -/
def ofWord : List Char → List Lexeme
  | [] => []
  | '#' :: token => [.name (String.ofList token)]
  | ':' :: token => [.value (String.ofList token)]
  | cs => [.word (String.ofList cs)]

/-- The lexemes of a text of which a word has begun. -/
def scan (word : List Char) : List Char → List Lexeme
  | [] => ofWord word
  | c :: rest =>
    match delimiter? c with
    | some marks => ofWord word ++ marks ++ scan [] rest
    | none => scan (word ++ [c]) rest

/-- The lexemes of a text. -/
def ofText (text : String) : List Lexeme :=
  scan [] text.toList

/-! ## Scanning -/

/-- A word goes on until a delimiter. -/
theorem scan_word {cs : List Char} (h : ∀ c ∈ cs, delimiter? c = none) (word : List Char) :
    scan word cs = ofWord (word ++ cs) := by
  induction cs generalizing word with
  | nil => rw [scan, List.append_nil]
  | cons c rest ih =>
    rw [scan, h c (by simp)]
    show scan (word ++ [c]) rest = _
    rw [ih (fun d hd => h d (by simp [hd])), List.append_assoc, List.singleton_append]

/-- What stands before a delimiter and what stands behind it are scanned apart. -/
theorem scan_append_delimiter {c : Char} {marks : List Lexeme} (h : delimiter? c = some marks)
    (word cs rest : List Char) :
    scan word (cs ++ c :: rest) = scan word cs ++ (marks ++ scan [] rest) := by
  induction cs generalizing word with
  | nil => simp only [List.nil_append, scan, h, List.append_assoc]
  | cons d cs ih =>
    rw [List.cons_append, scan, scan]
    cases hd : delimiter? d with
    | some marks' => simp only [ih, List.append_assoc]
    | none => exact ih _

/-- A text is one word, and is read as one lexeme. -/
structure Spells (text : String) (l : Lexeme) : Prop where
  plain : ∀ c ∈ text.toList, delimiter? c = none
  ofWord_eq : ofWord text.toList = [l]

/-- A word by itself. -/
theorem Spells.ofText_eq {text : String} {l : Lexeme} (h : Spells text l) : ofText text = [l] := by
  rw [ofText, scan_word h.plain, List.nil_append, h.ofWord_eq]

/-- A word, a delimiter behind it and what follows. -/
theorem Spells.scan_append {text : String} {l : Lexeme} (h : Spells text l) {c : Char}
    {marks : List Lexeme} (hc : delimiter? c = some marks) (rest : List Char) :
    scan [] (text.toList ++ c :: rest) = l :: (marks ++ scan [] rest) := by
  rw [scan_append_delimiter hc, scan_word h.plain, List.nil_append, h.ofWord_eq, List.singleton_append]

/-- The placeholder of a name is one word, if its token has no delimiter in it. -/
theorem spells_name {t : String} (ht : ∀ c ∈ t.toList, delimiter? c = none) :
    Spells ("#" ++ t) (.name t) := by
  have hchars : ("#" ++ t).toList = '#' :: t.toList := by simp [String.toList_append]
  constructor
  · rw [hchars]
    exact List.forall_mem_cons.2 ⟨rfl, ht⟩
  · rw [hchars, ofWord, String.ofList_toList]

/-- The placeholder of a value is one word, if its token has no delimiter in it. -/
theorem spells_value {t : String} (ht : ∀ c ∈ t.toList, delimiter? c = none) :
    Spells (":" ++ t) (.value t) := by
  have hchars : (":" ++ t).toList = ':' :: t.toList := by simp [String.toList_append]
  constructor
  · rw [hchars]
    exact List.forall_mem_cons.2 ⟨rfl, ht⟩
  · rw [hchars, ofWord, String.ofList_toList]

/-- The words of update expressions that are no placeholders. -/
def keywords : List String :=
  ["SET", "REMOVE", "=", "+", "if_not_exists", "list_append"]

/-- A keyword is one word, and stands for itself. -/
theorem spells_keyword {w : String} (h : w ∈ keywords) : Spells w (.word w) := by
  simp only [keywords, List.mem_cons, List.not_mem_nil, or_false] at h
  rcases h with rfl | rfl | rfl | rfl | rfl | rfl <;> exact ⟨by simp [delimiter?], rfl⟩

/-! ## Rows of texts -/

/-- Texts in a row, separated by commas, are scanned one after another. -/
theorem ofText_intercalate (texts : List String) :
    ofText (", ".intercalate texts) = [comma].intercalate (texts.map ofText) := by
  induction texts with
  | nil => rfl
  | cons t rest ih =>
    cases rest with
    | nil => simp
    | cons u rest =>
      rw [String.intercalate_cons_cons, List.map_cons, List.map_cons, List.intercalate_cons_cons,
        ← List.map_cons, ← ih]
      have hsep : (t ++ ", " ++ ", ".intercalate (u :: rest)).toList =
          t.toList ++ ',' :: ' ' :: (", ".intercalate (u :: rest)).toList := by
        simp [String.toList_append]
      rw [ofText, hsep, scan_append_delimiter (c := ',') rfl, List.append_assoc]
      rfl

/-- Texts in a row, separated by spaces, are scanned one after another. -/
theorem ofText_intercalate_space (texts : List String) :
    ofText (" ".intercalate texts) = (texts.map ofText).flatten := by
  induction texts with
  | nil => rfl
  | cons t rest ih =>
    cases rest with
    | nil => simp
    | cons u rest =>
      rw [List.map_cons, List.flatten_cons, ← ih, String.intercalate_cons_cons]
      have hsep : (t ++ " " ++ " ".intercalate (u :: rest)).toList =
          t.toList ++ ' ' :: (" ".intercalate (u :: rest)).toList := by
        simp [String.toList_append]
      rw [ofText, hsep, scan_append_delimiter (c := ' ') rfl]
      rfl

end Lexeme

end Amend.Expression
