import ReqConflict.Expr.Printer
import ReqConflict.Proofs.Text.Reading

/-!
# Reading the words of an expression

No word is reserved in the grammar of expressions.  A keyword is told from a
name by its end: a word is read as a keyword only if it is that keyword as a
whole.  A gap in front of a part or behind it is read with the part.
-/

namespace ReqConflict.Phrase

open Text Text.Parser

variable {α : Type} {part : Parser α} {value : α} {input rest left word : List Char}

def skipGap (text : List Char) : List Char :=
  text.dropWhile isGap

theorem skipGap_cons {c : Char} (hc : isGap c = false) (text : List Char) :
    skipGap (c :: text) = c :: text := by
  simp [skipGap, hc]

theorem skipGap_blank (text : List Char) : skipGap (' ' :: text) = skipGap text :=
  rfl

theorem skipGap_skipGap (text : List Char) : skipGap (skipGap text) = skipGap text := by
  induction text with
  | nil => rfl
  | cons c text ih =>
      cases hc : isGap c with
      | false => rw [skipGap_cons hc, skipGap_cons hc]
      | true =>
          have hskip : skipGap (c :: text) = skipGap text := by simp [skipGap, hc]
          rw [hskip, ih]

theorem spaced_done (hpart : part (skipGap input) = .done value rest) :
    spaced part input = .done value (skipGap rest) := by
  have hgap : gap input = .done () (skipGap input) := rfl
  rw [spaced, between, bind_done hgap, bind_done hpart]
  rfl

theorem spaced_isOpen (hpart : (part (skipGap input)).IsOpen) : (spaced part input).IsOpen := by
  have hgap : gap input = .done () (skipGap input) := rfl
  rw [spaced, between, bind_done hgap]
  exact bind_isOpen hpart

/-! ## Keywords -/

/-- No letter, digit or underscore follows. -/
def EndsWord (rest : List Char) : Prop :=
  ∀ c ∈ rest.head?, isWordChar c = false

theorem isWordChar_of_sign :
    ∀ c ∈ [' ', ')', '(', ',', '.', '\'', '=', '!'], isWordChar c = false := by
  intro c hc
  have hall : [' ', ')', '(', ',', '.', '\'', '=', '!'].all (fun c => !isWordChar c) = true := by
    decide +kernel
  simpa using List.all_eq_true.mp hall c hc

theorem endsWord_sign {c : Char} (hc : c ∈ [' ', ')', '(', ',', '.', '\'', '=', '!'])
    (rest : List Char) : EndsWord (c :: rest) := by
  intro d hd
  have hcd : c = d := by simpa using hd
  exact hcd ▸ isWordChar_of_sign c hc

theorem missing_done (hrest : EndsWord rest) :
    missing (oneOf "Satisfy" isWordChar) rest = .done () rest := by
  cases rest with
  | nil => rfl
  | cons c rest =>
      have hc : isWordChar c = false := hrest c rfl
      simp [missing, oneOf, hc]

theorem missing_isOpen {c : Char} (hc : isWordChar c = true) (rest : List Char) :
    (missing (oneOf "Satisfy" isWordChar) (c :: rest)).IsOpen := by
  refine ⟨[⟨c :: rest, .part "Not"⟩], ?_⟩
  simp [missing, oneOf, hc]

theorem keyword_done (text : String) (hrest : EndsWord rest) :
    keyword text (text.toList ++ rest) = .done () rest := by
  have hword := (Reads.word text).done trivial rest trivial
  rw [keyword, bind_done hword]
  exact missing_done hrest

theorem keyword_pure_done {α : Type} (text : String) (value : α) (hrest : EndsWord rest) :
    (keyword text >>= fun _ => pure value) (text.toList ++ rest) = .done value rest :=
  bind_done (keyword_done text hrest)

/-- Behind a keyword that begins another word, that word goes on. -/
theorem exists_of_dropWord {text : List Char} (htext : ∀ c ∈ text, isWordChar c = true)
    (hword : ∀ c ∈ word, isWordChar c = true) (hne : word ≠ text) (hrest : EndsWord rest)
    (hdrop : dropWord text (word ++ rest) = some left) :
    ∃ c left', left = c :: left' ∧ isWordChar c = true := by
  have hsplit : word ++ rest = text ++ left := dropWord_eq_some_iff.mp hdrop
  rcases List.append_eq_append_iff.mp hsplit with ⟨more, htext', hrest'⟩ | ⟨more, hword', hleft⟩
  · cases more with
    | nil =>
        rw [List.append_nil] at htext'
        exact absurd htext'.symm hne
    | cons c more =>
        have hplain : isWordChar c = false := hrest c (by rw [hrest']; rfl)
        have hletter : isWordChar c = true := htext c (by rw [htext']; simp)
        rw [hplain] at hletter
        cases hletter
  · cases more with
    | nil =>
        rw [List.append_nil] at hword'
        exact absurd hword' hne
    | cons c more =>
        exact ⟨c, more ++ rest, hleft, hword c (by rw [hword']; simp)⟩

/-- A word is not read as a keyword that it differs from. -/
theorem keyword_isOpen {text : String} (htext : ∀ c ∈ text.toList, isWordChar c = true)
    (hword : ∀ c ∈ word, isWordChar c = true) (hne : word ≠ text.toList)
    (hrest : EndsWord rest) : (keyword text (word ++ rest)).IsOpen := by
  cases hdrop : dropWord text.toList (word ++ rest) with
  | none => exact bind_isOpen (word_isOpen hdrop)
  | some left =>
      obtain ⟨c, left', rfl, hc⟩ := exists_of_dropWord htext hword hne hrest hdrop
      have hread : Parser.word text (word ++ rest) = .done () (c :: left') := by
        rw [Parser.word, hdrop]
      rw [keyword, bind_done hread]
      exact missing_isOpen hc left'

/-! ## Names -/

def isNameChar (c : Char) : Bool :=
  c.isAlphanum || c == '_'

theorem isWordChar_of_isNameChar {c : Char} (hc : isNameChar c = true) : isWordChar c = true := by
  rw [isNameChar, Bool.or_eq_true] at hc
  rw [isWordChar, Bool.or_eq_true]
  exact hc.imp isAlphanumeric_of_isAlphanum id

theorem forall_isWordChar (hword : ∀ c ∈ word, isNameChar c = true) :
    ∀ c ∈ word, isWordChar c = true := by
  intro c hc
  exact isWordChar_of_isNameChar (hword c hc)

theorem isNameChar_of_endsWord (hrest : EndsWord rest) :
    ∀ c ∈ rest.head?, isNameChar c = false := by
  intro c hc
  cases hname : isNameChar c with
  | false => rfl
  | true =>
      have hword := isWordChar_of_isNameChar hname
      rw [hrest c hc] at hword
      cases hword

theorem head?_dropWhile_append {accepts : Char → Bool} (word : List Char)
    (hrest : ∀ c ∈ rest.head?, accepts c = false) :
    ∀ c ∈ (word.dropWhile accepts ++ rest).head?, accepts c = false := by
  induction word with
  | nil => exact hrest
  | cons d word ih =>
      cases hd : accepts d with
      | true => simpa [hd] using ih
      | false => simp [hd]

/-- A run of characters of a class is read up to its end within a word. -/
theorem span1_takeWhile {name : String} {accepts : Char → Bool} {c : Char}
    (hc : accepts c = true) (word : List Char) (hrest : ∀ d ∈ rest.head?, accepts d = false) :
    span1 name accepts (c :: word ++ rest) =
      .done (c :: word.takeWhile accepts) (word.dropWhile accepts ++ rest) := by
  have hsplit : c :: word ++ rest =
      (c :: word.takeWhile accepts) ++ (word.dropWhile accepts ++ rest) := by
    rw [List.cons_append, List.cons_append, ← List.append_assoc, List.takeWhile_append_dropWhile]
  have hall : (word.takeWhile accepts).all accepts = true := List.all_takeWhile
  rw [hsplit]
  apply span1_done
  · intro d hd
    rcases List.mem_cons.mp hd with rfl | hd
    · exact hc
    · exact List.all_eq_true.mp hall d hd
  · exact List.cons_ne_nil c _
  · exact head?_dropWhile_append word hrest

theorem span1_isOpen {name : String} {accepts : Char → Bool}
    (hinput : ∀ c ∈ input.head?, accepts c = false) : (span1 name accepts input).IsOpen := by
  refine ⟨[⟨input, .part name⟩], ?_⟩
  cases input with
  | nil => rfl
  | cons c input =>
      have hc : accepts c = false := hinput c rfl
      simp [span1, hc]

theorem underscore_isOpen (hinput : input.head? ≠ some '_') : (underscore input).IsOpen :=
  bind_isOpen (word_isOpen (dropWord_of_head? hinput []))

/-- A part of a name: a run of one class, or an underscore. -/
def namePart (name : String) (accepts : Char → Bool) : Parser (List Char) :=
  choice [span1 name accepts, underscore]

theorem namePart_run {name : String} {accepts : Char → Bool} {c : Char}
    (hc : accepts c = true) (word : List Char) (hrest : ∀ d ∈ rest.head?, accepts d = false) :
    namePart name accepts (c :: word ++ rest) =
      .done (c :: word.takeWhile accepts) (word.dropWhile accepts ++ rest) := by
  rw [namePart, choice_cons_cons, span1_takeWhile hc word hrest]

theorem namePart_underscore {name : String} {accepts : Char → Bool}
    (haccepts : accepts '_' = false) (rest : List Char) :
    namePart name accepts ('_' :: rest) = .done ['_'] rest := by
  have hspan : (span1 name accepts ('_' :: rest)).IsOpen := by
    apply span1_isOpen
    intro c hc
    have hc' : '_' = c := by simpa using hc
    exact hc' ▸ haccepts
  obtain ⟨trace, htrace⟩ := hspan
  rw [namePart, choice_cons_cons, htrace]
  rfl

theorem namePart_isOpen {name : String} {accepts : Char → Bool}
    (hinput : ∀ c ∈ input.head?, accepts c = false) (hunderscore : input.head? ≠ some '_') :
    (namePart name accepts input).IsOpen :=
  choice_isOpen (span1_isOpen hinput) (underscore_isOpen hunderscore)

/-- The parts of a name make up a word of name characters. -/
theorem manyUpTo_nameParts (hrest : EndsWord rest) {bound : Nat} :
    ∀ word : List Char, (∀ c ∈ word, isNameChar c = true) → word.length ≤ bound →
      ∃ runs, manyUpTo (namePart "AlphaNumeric" Char.isAlphanum) bound (word ++ rest) =
        .done runs rest ∧ runs.flatten = word := by
  have hplain := isNameChar_of_endsWord hrest
  have halphanum : ∀ c ∈ rest.head?, c.isAlphanum = false := by
    intro c hc
    exact (Bool.or_eq_false_iff.mp (hplain c hc)).1
  have hunderscore : rest.head? ≠ some '_' := by
    intro heq
    have hc := hplain '_' heq
    cases hc
  induction bound with
  | zero =>
      intro word _ hlength
      have hword : word = [] := List.length_eq_zero_iff.mp (Nat.le_zero.mp hlength)
      rw [hword]
      exact ⟨[], rfl, rfl⟩
  | succ bound ih =>
      intro word hword hlength
      cases word with
      | nil =>
          refine ⟨[], ?_, rfl⟩
          exact manyUpTo_of_isOpen (namePart_isOpen halphanum hunderscore) (bound + 1)
      | cons c word =>
          obtain ⟨hc, htail⟩ := List.forall_mem_cons.mp hword
          have hshort : word.length ≤ bound := Nat.le_of_succ_le_succ hlength
          rw [isNameChar, Bool.or_eq_true, beq_iff_eq] at hc
          rcases hc with hc | rfl
          · -- a run ends at the next underscore, and what is left of the word is shorter
            have hleft := List.dropWhile_sublist (l := word) Char.isAlphanum
            have hdrop : (word.dropWhile Char.isAlphanum).length ≤ bound :=
              Nat.le_trans hleft.length_le hshort
            have hletters : ∀ d ∈ word.dropWhile Char.isAlphanum, isNameChar d = true := by
              intro d hd
              exact htail d (hleft.subset hd)
            obtain ⟨runs, hruns, hflat⟩ := ih _ hletters hdrop
            refine ⟨(c :: word.takeWhile Char.isAlphanum) :: runs, ?_, ?_⟩
            · rw [manyUpTo_succ, namePart_run hc word halphanum]
              simp only [hruns]
            · rw [List.flatten_cons, hflat, List.cons_append, List.takeWhile_append_dropWhile]
          · obtain ⟨runs, hruns, hflat⟩ := ih word htail hshort
            refine ⟨['_'] :: runs, ?_, ?_⟩
            · rw [manyUpTo_succ, List.cons_append, namePart_underscore (by decide)]
              simp only [hruns]
            · rw [List.flatten_cons, hflat]
              rfl

theorem many_nameParts (hword : ∀ c ∈ word, isNameChar c = true) (hrest : EndsWord rest) :
    ∃ runs, many (namePart "AlphaNumeric" Char.isAlphanum) (word ++ rest) = .done runs rest ∧
      runs.flatten = word := by
  apply manyUpTo_nameParts hrest word hword
  rw [List.length_append]
  omega

theorem name_apply (input : List Char) :
    name input = (namePart "Alpha" Char.isAlpha >>= fun head =>
      many (namePart "AlphaNumeric" Char.isAlphanum) >>= fun tail =>
        pure (String.ofList (head ++ tail.flatten))) input :=
  rfl

theorem isIdentifier_iff {identifier : String} :
    Expr.isIdentifier identifier = true ↔
      ∃ c word, identifier.toList = c :: word ∧ (c.isAlpha = true ∨ c = '_') ∧
        ∀ d ∈ word, isNameChar d = true := by
  rw [Expr.isIdentifier]
  cases identifier.toList with
  | nil => simp
  | cons c word =>
      simp only [Bool.and_eq_true, Bool.or_eq_true, beq_iff_eq, List.all_eq_true, isNameChar,
        List.cons.injEq]
      constructor
      · intro ⟨hc, hword⟩
        exact ⟨c, word, ⟨rfl, rfl⟩, hc, hword⟩
      · rintro ⟨_, _, ⟨rfl, rfl⟩, hc, hword⟩
        exact ⟨hc, hword⟩

theorem isNameChar_of_isAlpha {c : Char} (hc : c.isAlpha = true ∨ c = '_') :
    isNameChar c = true := by
  rw [isNameChar, Bool.or_eq_true, beq_iff_eq]
  refine hc.imp (fun halpha => ?_) id
  rw [Char.isAlphanum, halpha, Bool.true_or]

theorem isNameChar_of_isIdentifier {identifier : String}
    (hidentifier : Expr.isIdentifier identifier = true) :
    ∀ c ∈ identifier.toList, isNameChar c = true := by
  obtain ⟨c, word, htext, hc, hword⟩ := isIdentifier_iff.mp hidentifier
  intro d hd
  rw [htext] at hd
  rcases List.mem_cons.mp hd with rfl | hd
  · exact isNameChar_of_isAlpha hc
  · exact hword d hd

theorem name_done {identifier : String} (hidentifier : Expr.isIdentifier identifier = true)
    (hrest : EndsWord rest) : name (identifier.toList ++ rest) = .done identifier rest := by
  obtain ⟨c, word, htext, hc, hword⟩ := isIdentifier_iff.mp hidentifier
  have hplain := isNameChar_of_endsWord hrest
  have halpha : ∀ d ∈ rest.head?, d.isAlpha = false := by
    intro d hd
    have hd' := (Bool.or_eq_false_iff.mp (hplain d hd)).1
    exact (Bool.or_eq_false_iff.mp hd').1
  have hwhole : String.ofList (c :: word) = identifier := by
    rw [← htext, String.ofList_toList]
  rw [name_apply, htext]
  rcases hc with hc | rfl
  · have hleft : ∀ d ∈ word.dropWhile Char.isAlpha, isNameChar d = true :=
      fun d hd => hword d ((List.dropWhile_sublist _).subset hd)
    obtain ⟨runs, hruns, hflat⟩ := many_nameParts hleft hrest
    rw [bind_done (namePart_run hc word halpha), bind_done hruns, pure_apply, hflat,
      List.cons_append, List.takeWhile_append_dropWhile, hwhole]
  · obtain ⟨runs, hruns, hflat⟩ := many_nameParts hword hrest
    rw [List.cons_append, bind_done (namePart_underscore (by decide) _), bind_done hruns,
      pure_apply, hflat, List.singleton_append, hwhole]

theorem name_isOpen (hinput : ∀ c ∈ input.head?, isNameChar c = false) :
    (name input).IsOpen := by
  rw [name_apply]
  apply bind_isOpen
  apply namePart_isOpen
  · intro c hc
    have hc' := (Bool.or_eq_false_iff.mp (hinput c hc)).1
    exact (Bool.or_eq_false_iff.mp hc').1
  · intro heq
    have hc := hinput '_' heq
    cases hc

end ReqConflict.Phrase
