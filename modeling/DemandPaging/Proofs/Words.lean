import DemandPaging.Text.Blank

/-!
# Words on a line

A line on which words are typed with blanks between them, and perhaps around
them, is cut into just these words.
-/

namespace DemandPaging

namespace Text

/-- A text that can stand as a word on a line. -/
def IsWord (word : String) : Prop :=
  word.toList ≠ [] ∧ ∀ letter ∈ word.toList, isBlank letter = false

instance (word : String) : Decidable (IsWord word) :=
  -- The letters of the word are looked at, and not all letters that there are.
  @instDecidableAnd _ _ inferInstance (List.decidableBAll _ _)

/-- A run of blanks. -/
structure Blanks where
  letters : List Char
  blank : ∀ letter ∈ letters, isBlank letter = true

/-- A run of blanks that keeps words apart. -/
structure Gap extends Blanks where
  nonempty : letters ≠ []

/-- The blanks that are typed around words. -/
structure LineStyle where
  before : Blanks
  /-- The blanks after each word but the last. -/
  between : Nat → Gap
  after : Blanks

namespace LineStyle

/-- The words that follow the first one, with the blanks before each of them. -/
def lettersAfterFirst (between : Nat → Gap) : List String → List Char
  | [] => []
  | word :: rest =>
    (between 0).letters ++ word.toList ++ lettersAfterFirst (fun place => between (place + 1)) rest

/-- The line on which `words` are typed. -/
def line (style : LineStyle) : List String → String
  | [] => String.ofList (style.before.letters ++ style.after.letters)
  | first :: rest =>
    String.ofList (style.before.letters ++ first.toList ++
      lettersAfterFirst style.between rest ++ style.after.letters)

end LineStyle

section Words

variable {begun letters rest : List Char}

theorem wordsAfter_of_blanks (blank : ∀ letter ∈ letters, isBlank letter = true) :
    wordsAfter [] (letters ++ rest) = wordsAfter [] rest := by
  induction letters with
  | nil => rfl
  | cons letter others ih =>
    obtain ⟨first, blanks⟩ := List.forall_mem_cons.mp blank
    rw [List.cons_append, wordsAfter, if_pos first]
    exact ih blanks

/-- Letters that are not blank go on with the word that is begun. -/
theorem wordsAfter_of_letters (solid : ∀ letter ∈ letters, isBlank letter = false) :
    wordsAfter begun (letters ++ rest) = wordsAfter (letters.reverse ++ begun) rest := by
  induction letters generalizing begun with
  | nil => rfl
  | cons letter others ih =>
    obtain ⟨first, solids⟩ := List.forall_mem_cons.mp solid
    rw [List.cons_append, wordsAfter, if_neg (by simp [first]), ih solids, List.reverse_cons,
      List.append_assoc, List.singleton_append]

/-- Blanks end the word that is begun. -/
theorem wordsAfter_of_gap (gap : Gap) (started : begun ≠ []) :
    wordsAfter begun (gap.letters ++ rest) =
      String.ofList begun.reverse :: wordsAfter [] rest := by
  obtain ⟨⟨letters, blank⟩, present⟩ := gap
  cases letters with
  | nil => exact absurd rfl present
  | cons letter others =>
    obtain ⟨first, blanks⟩ := List.forall_mem_cons.mp blank
    simp only [List.cons_append, wordsAfter, first, if_true, List.isEmpty_iff, started, if_false]
    rw [wordsAfter_of_blanks blanks]

theorem wordsAfter_of_after (after : Blanks) (started : begun ≠ []) :
    wordsAfter begun after.letters = [String.ofList begun.reverse] := by
  obtain ⟨letters, blank⟩ := after
  cases letters with
  | nil => simp [wordsAfter, started]
  | cons letter others =>
    have ended := @wordsAfter_of_gap begun [] ⟨⟨_, blank⟩, List.cons_ne_nil _ _⟩ started
    rwa [List.append_nil] at ended

theorem wordsAfter_lettersAfterFirst {between : Nat → Gap} {words : List String}
    (solid : ∀ word ∈ words, IsWord word) (started : begun ≠ []) (after : Blanks) :
    wordsAfter begun (LineStyle.lettersAfterFirst between words ++ after.letters) =
      String.ofList begun.reverse :: words := by
  induction words generalizing begun between with
  | nil => exact wordsAfter_of_after after started
  | cons word rest ih =>
    obtain ⟨⟨present, letters⟩, others⟩ := List.forall_mem_cons.mp solid
    rw [LineStyle.lettersAfterFirst, List.append_assoc, List.append_assoc,
      wordsAfter_of_gap _ started, wordsAfter_of_letters letters, List.append_nil,
      ih others (by simpa using present), List.reverse_reverse, String.ofList_toList]

/-- A line is cut into the words that were typed on it. -/
theorem words_line (style : LineStyle) {words : List String}
    (solid : ∀ word ∈ words, IsWord word) : Text.words (style.line words) = words := by
  cases words with
  | nil =>
    rw [Text.words, LineStyle.line, String.toList_ofList, wordsAfter_of_blanks style.before.blank,
      ← List.append_nil style.after.letters, wordsAfter_of_blanks style.after.blank]
    rfl
  | cons first rest =>
    obtain ⟨⟨present, letters⟩, others⟩ := List.forall_mem_cons.mp solid
    rw [Text.words, LineStyle.line, String.toList_ofList, List.append_assoc, List.append_assoc,
      wordsAfter_of_blanks style.before.blank, wordsAfter_of_letters letters, List.append_nil,
      wordsAfter_lettersAfterFirst others (by simpa using present), List.reverse_reverse,
      String.ofList_toList]

end Words

end Text

end DemandPaging
