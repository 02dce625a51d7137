import ReqConflict.Text.Blank

/-!
# Words

The words of a text are the only list of words that the text consists of,
together with blanks around them and at least one between two of them.
-/

namespace ReqConflict.Text

variable {text word : List Char} {texts : List (List Char)}

def IsWord (word : List Char) : Prop :=
  word ≠ [] ∧ ∀ c ∈ word, isBlank c = false

/-- The text consists of the words in this order and of blanks, which stand at
least between the words. -/
inductive Spaced : List (List Char) → List Char → Prop
  | nil : Spaced [] []
  | blank {c : Char} {texts : List (List Char)} {text : List Char} (hblank : isBlank c = true)
      (hrest : Spaced texts text) : Spaced texts (c :: text)
  | word {word text : List Char} {texts : List (List Char)} (hword : IsWord word)
      (hends : ∀ c ∈ text.head?, isBlank c = true) (hrest : Spaced texts text) :
      Spaced (word :: texts) (word ++ text)

theorem Spaced.isWord (hspaced : Spaced texts text) : ∀ word ∈ texts, IsWord word := by
  induction hspaced with
  | nil => simp
  | blank _ _ ih => exact ih
  | word hword _ _ ih => exact List.forall_mem_cons.mpr ⟨hword, ih⟩

/-- Words with single spaces between them. -/
theorem spaced_intercalate (hwords : ∀ word ∈ texts, IsWord word) :
    Spaced texts ([' '].intercalate texts) := by
  induction texts with
  | nil => exact .nil
  | cons word texts ih =>
      obtain ⟨hword, hwords⟩ := List.forall_mem_cons.mp hwords
      cases texts with
      | nil => simpa using Spaced.word hword (by simp) .nil
      | cons next texts =>
          have hrest : Spaced (next :: texts) (' ' :: [' '].intercalate (next :: texts)) :=
            .blank (by decide) (ih hwords)
          have hends : ∀ c ∈ (' ' :: [' '].intercalate (next :: texts)).head?,
              isBlank c = true := by
            simp [isBlank]
          simpa using Spaced.word hword hends hrest

theorem isWord_reverse (hne : word ≠ []) (hword : ∀ c ∈ word, isBlank c = false) :
    IsWord word.reverse := by
  refine ⟨List.reverse_ne_nil_iff.mpr hne, ?_⟩
  intro c hc
  exact hword c (List.mem_reverse.mp hc)

/-- The run being read, which is given last character first, stands in front of
the text. -/
theorem spaced_wordsFrom (hword : ∀ c ∈ word, isBlank c = false) :
    Spaced (wordsFrom word text) (word.reverse ++ text) := by
  induction text generalizing word with
  | nil =>
      by_cases hnil : word = []
      · subst hnil
        exact .nil
      · simpa [wordsFrom, hnil] using Spaced.word (isWord_reverse hnil hword) (by simp) .nil
  | cons c rest ih =>
      by_cases hblank : isBlank c = true
      · have hrest : Spaced (wordsFrom [] rest) (c :: rest) := .blank hblank (ih (by simp))
        by_cases hnil : word = []
        · subst hnil
          simpa [wordsFrom, hblank] using hrest
        · simpa [wordsFrom, hblank, hnil] using
            Spaced.word (isWord_reverse hnil hword) (by simpa using hblank) hrest
      · have hrun : ∀ other ∈ c :: word, isBlank other = false :=
          List.forall_mem_cons.mpr ⟨by simpa using hblank, hword⟩
        simpa [wordsFrom, hblank] using ih hrun

theorem wordsFrom_append {run : List Char} (hword : ∀ c ∈ word, isBlank c = false) :
    wordsFrom run (word ++ text) = wordsFrom (word.reverse ++ run) text := by
  induction word generalizing run with
  | nil => rfl
  | cons c word ih =>
      obtain ⟨hplain, hword⟩ := List.forall_mem_cons.mp hword
      simp [wordsFrom, hplain, ih hword]

theorem wordsFrom_of_ends (hrun : word ≠ []) (hends : ∀ c ∈ text.head?, isBlank c = true) :
    wordsFrom word text = word.reverse :: words text := by
  cases text with
  | nil => simp [words, wordsFrom, hrun]
  | cons c rest =>
      have hblank : isBlank c = true := hends c rfl
      simp [words, wordsFrom, hblank, hrun]

theorem Spaced.words_eq (hspaced : Spaced texts text) : words text = texts := by
  induction hspaced with
  | nil => rfl
  | blank hblank _ ih => simpa [words, wordsFrom, hblank] using ih
  | word hword hends _ ih =>
      have hrun := List.reverse_ne_nil_iff.mpr hword.1
      rw [words, wordsFrom_append hword.2, List.append_nil, wordsFrom_of_ends hrun hends,
        List.reverse_reverse, ih]

theorem words_eq_iff : words text = texts ↔ Spaced texts text := by
  constructor
  · rintro rfl
    have hspaced : Spaced (wordsFrom [] text) ([].reverse ++ text) := spaced_wordsFrom (by simp)
    exact hspaced
  · exact Spaced.words_eq

end ReqConflict.Text
