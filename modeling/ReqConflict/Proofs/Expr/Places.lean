import ReqConflict.Proofs.Expr.Words

/-!
# Places in an expression

The grammar has a level for every precedence.  The operators that can follow an
operand depend on the level, and a level reads an operand of its own or of a
tighter one, up to an operator that it leaves to a looser level.  The reading
of an operand takes the gap behind it as well, so a text is read in front of a
rest that can follow it, and what is left is that rest without its gap.

The levels below the parentheses have a bound for their depth.  A text is at
least as long as the parentheses and negations in it are deep, so its length
is bound enough.
-/

namespace ReqConflict

/-- The operators that can stand behind an operand at a place. -/
def Precedence.operators : Precedence → List String
  | disjunction => []
  | conjunction => ["or"]
  | negation | comparison => ["and", "or"]
  | primary => ["==", "!=", "and", "or"]

namespace Phrase

open Text Text.Parser ReqConflict.Expr

variable {part : Parser Phrase} {text text' rest left : List Char} {phrase phrase' : Phrase}
  {place looser tighter : Precedence} {n : Nat}

/-- No gap stands in front of the text. -/
def Begins (text : List Char) : Prop :=
  ∃ c left, text = c :: left ∧ isGap c = false

theorem skipGap_append (hbegins : Begins text) (rest : List Char) :
    skipGap (text ++ rest) = text ++ rest := by
  obtain ⟨c, left, rfl, hc⟩ := hbegins
  exact skipGap_cons hc (left ++ rest)

theorem Begins.append (hbegins : Begins text) (rest : List Char) : Begins (text ++ rest) := by
  obtain ⟨c, left, rfl, hc⟩ := hbegins
  exact ⟨c, left ++ rest, rfl, hc⟩

theorem begins_bracketed (text : List Char) : Begins (bracketed text) :=
  ⟨'(', text ++ [')'], rfl, rfl⟩

/-- A rest that can stand behind an operand at a place. -/
def Follows (place : Precedence) (rest : List Char) : Prop :=
  (∀ c ∈ rest.head?, c = ')' ∨ c = ',') ∨
    ∃ operator ∈ place.operators, ∃ left, rest = operatorText operator ++ left

theorem follows_nil (place : Precedence) : Follows place [] := by
  left
  intro c hc
  cases hc

theorem follows_cons {c : Char} (hc : c = ')' ∨ c = ',') (place : Precedence)
    (left : List Char) : Follows place (c :: left) := by
  left
  intro d hd
  have hcd : c = d := by simpa using hd
  rw [← hcd]
  exact hc

theorem follows_operator (operator : String) (hoperator : operator ∈ place.operators)
    (left : List Char) : Follows place (operatorText operator ++ left) :=
  Or.inr ⟨operator, hoperator, left, rfl⟩

theorem operators_subset (hle : looser.strength ≤ tighter.strength) :
    looser.operators ⊆ tighter.operators := by
  revert hle
  cases looser <;> cases tighter <;> decide

theorem Follows.mono (hrest : Follows looser rest) (hle : looser.strength ≤ tighter.strength) :
    Follows tighter rest := by
  refine hrest.imp id ?_
  intro ⟨operator, hoperator, left, hleft⟩
  exact ⟨operator, operators_subset hle hoperator, left, hleft⟩

theorem operators_subset_primary (place : Precedence) :
    place.operators ⊆ Precedence.primary.operators := by
  apply operators_subset
  cases place <;> decide

theorem skipGap_operator {operator : String}
    (hoperator : operator ∈ Precedence.primary.operators) (left : List Char) :
    skipGap (operatorText operator ++ left) = operator.toList ++ ' ' :: left := by
  simp only [Precedence.operators, List.mem_cons, List.not_mem_nil, or_false] at hoperator
  rcases hoperator with rfl | rfl | rfl | rfl <;> rfl

/-- What can stand behind an operand, with the gap in front of it skipped. -/
theorem Follows.cases_skipGap (hrest : Follows place rest) :
    (skipGap rest = rest ∧ ∀ c ∈ rest.head?, c = ')' ∨ c = ',') ∨
      ∃ operator ∈ place.operators, ∃ left, skipGap rest = operator.toList ++ ' ' :: left := by
  rcases hrest with hclosing | ⟨operator, hoperator, left, rfl⟩
  · left
    refine ⟨?_, hclosing⟩
    cases rest with
    | nil => rfl
    | cons c left =>
        apply skipGap_cons
        rcases hclosing c rfl with rfl | rfl
        · rfl
        · rfl
  · right
    have hknown := operators_subset_primary place hoperator
    exact ⟨operator, hoperator, left, skipGap_operator hknown left⟩

theorem endsWord_closing (hclosing : ∀ c ∈ rest.head?, c = ')' ∨ c = ',') : EndsWord rest := by
  intro c hc
  rcases hclosing c hc with rfl | rfl
  · exact isWordChar_of_sign ')' (by decide)
  · exact isWordChar_of_sign ',' (by decide)

theorem Follows.endsWord (hrest : Follows place rest) : EndsWord rest := by
  rcases hrest with hclosing | ⟨operator, _, left, rfl⟩
  · exact endsWord_closing hclosing
  · exact endsWord_sign (by decide) _

theorem Follows.head?_ne (hrest : Follows place rest) {c : Char} (hc : c ∉ [')', ',', ' ']) :
    rest.head? ≠ some c := by
  simp only [List.mem_cons, List.not_mem_nil, or_false, not_or] at hc
  rcases hrest with hclosing | ⟨operator, _, left, rfl⟩
  · intro heq
    rcases hclosing c heq with h | h
    · exact hc.1 h
    · exact hc.2.1 h
  · simpa [operatorText] using Ne.symm hc.2.2

theorem Follows.head?_skipGap_ne (hrest : Follows place rest) :
    (skipGap rest).head? ≠ some '(' := by
  rcases hrest.cases_skipGap with ⟨hskip, hclosing⟩ | ⟨operator, hoperator, left, hskip⟩
  · rw [hskip]
    intro heq
    rcases hclosing '(' heq with h | h
    · cases h
    · cases h
  · have hknown := operators_subset_primary place hoperator
    simp only [Precedence.operators, List.mem_cons, List.not_mem_nil, or_false] at hknown
    rw [hskip]
    rcases hknown with rfl | rfl | rfl | rfl <;> simp

theorem isWordChar_of_operator {operator : String} (hoperator : operator = "and" ∨ operator = "or") :
    ∀ c ∈ operator.toList, isWordChar c = true := by
  have hall : operator.toList.all isNameChar = true := by
    rcases hoperator with rfl | rfl
    · decide
    · decide
  exact forall_isWordChar (List.all_eq_true.mp hall)

/-- An operator that cannot follow at a place is not found there. -/
theorem Follows.keyword_isOpen (hrest : Follows place rest) {operator : String}
    (hoperator : operator = "and" ∨ operator = "or") (hnot : operator ∉ place.operators) :
    (keyword operator (skipGap rest)).IsOpen := by
  have hletters := isWordChar_of_operator hoperator
  have hne : [] ≠ operator.toList := by
    rcases hoperator with rfl | rfl
    · decide
    · decide
  have hempty : ∀ text, EndsWord text → (keyword operator text).IsOpen := by
    intro text hends
    have hopen := Phrase.keyword_isOpen hletters (List.forall_mem_nil _) hne hends
    exact hopen
  rcases hrest.cases_skipGap with ⟨hskip, hclosing⟩ | ⟨other, hother, left, hskip⟩
  · rw [hskip]
    exact hempty rest (endsWord_closing hclosing)
  · have hdiffer : other.toList ≠ operator.toList := by
      intro heq
      rw [String.toList_inj.mp heq] at hother
      exact hnot hother
    have hknown := operators_subset_primary place hother
    simp only [Precedence.operators, List.mem_cons, List.not_mem_nil, or_false] at hknown
    rw [hskip]
    rcases hknown with rfl | rfl | hword
    · exact hempty _ (endsWord_sign (by decide) ('=' :: ' ' :: left))
    · exact hempty _ (endsWord_sign (by decide) ('=' :: ' ' :: left))
    · have hends : EndsWord (' ' :: left) := endsWord_sign (by decide) left
      exact Phrase.keyword_isOpen hletters (isWordChar_of_operator hword) hdiffer hends

/-! ## Levels -/

/-- Reads a text as a phrase in front of everything that can follow it at a
place, and the gap behind the text. -/
def Takes (place : Precedence) (part : Parser Phrase) (text : List Char) (phrase : Phrase) :
    Prop :=
  ∀ rest, Follows place rest → part (text ++ rest) = .done phrase (skipGap rest)

theorem Takes.commit (htakes : Takes place part text phrase) :
    Takes place (commit part) text phrase := by
  intro rest hrest
  rw [Parser.commit, htakes rest hrest]

def operand (n : Nat) : Parser Phrase :=
  primary (upTo n)

def negated (n bound : Nat) : Parser Phrase :=
  negationUpTo (comparisonOf (operand n)) bound

def conjunct (n : Nat) : Parser Phrase :=
  chain "and" .conjunction (negated n (n + 1))

/-- The level of a place reads the text, where parentheses may nest `n` deep. -/
def ReadsAt (n : Nat) (text : List Char) (phrase : Phrase) : Precedence → Prop
  | .disjunction => Takes .disjunction (upTo (n + 1)) text phrase
  | .conjunction => Takes .conjunction (conjunct n) text phrase
  | .negation => ∀ bound, text.length ≤ bound → Takes .negation (negated n bound) text phrase
  | .comparison => Takes .comparison (comparisonOf (operand n)) text phrase
  | .primary => Takes .primary (operand n) text phrase

/-- The text does not begin with the keyword of a negation. -/
def Unnegated (text : List Char) : Prop :=
  ∀ rest, EndsWord rest → (keyword "not" (text ++ rest)).IsOpen

theorem Unnegated.append (hunnegated : Unnegated text) (hends : EndsWord text')
    (hne : text' ≠ []) : Unnegated (text ++ text') := by
  intro rest _
  rw [List.append_assoc]
  apply hunnegated
  intro c hc
  cases text' with
  | nil => exact absurd rfl hne
  | cons d text' => exact hends c hc

theorem isWordChar_not : ∀ c ∈ "not".toList, isWordChar c = true := by
  have hall : "not".toList.all isNameChar = true := by decide
  exact forall_isWordChar (List.all_eq_true.mp hall)

theorem unnegated_word {word : List Char} (hword : ∀ c ∈ word, isNameChar c = true)
    (hne : word ≠ "not".toList) (hends : EndsWord text) : Unnegated (word ++ text) := by
  intro rest hrest
  rw [List.append_assoc]
  apply keyword_isOpen isWordChar_not (forall_isWordChar hword) hne
  cases text with
  | nil => exact hrest
  | cons c text => exact hends

theorem unnegated_bracketed (text : List Char) : Unnegated (bracketed text) := by
  have hends : EndsWord (bracketed text) := endsWord_sign (by decide) (text ++ [')'])
  exact unnegated_word (List.forall_mem_nil _) (by decide) hends

section Items

variable {ι : Type} {itemText : ι → List Char} {read : ι → Phrase} {items : List ι}
  {separator : Parser Unit} {separatorText : List Char} {bound : Nat}

/-- What a separator has to do between items: it is read with the gap behind
it, it can follow an item, and it is not found behind the last one. -/
structure Separates (separator : Parser Unit) (separatorText : List Char) (place : Precedence)
    (rest : List Char) : Prop where
  done : ∀ left, separator (skipGap (separatorText ++ left)) = .done () (skipGap left)
  follows : ∀ left, Follows place (separatorText ++ left)
  shortens : ∀ left, left.length < (skipGap (separatorText ++ left)).length
  end_follows : Follows place rest
  end_isOpen : (separator (skipGap rest)).IsOpen

theorem follows_items (itemText : ι → List Char)
    (hseparates : Separates separator separatorText place rest) (items : List ι) :
    Follows place (items.flatMap (fun item => separatorText ++ itemText item) ++ rest) := by
  cases items with
  | nil => exact hseparates.end_follows
  | cons item items =>
      rw [List.flatMap_cons, List.append_assoc, List.append_assoc]
      exact hseparates.follows _

theorem manyUpTo_items (hseparates : Separates separator separatorText place rest)
    (hitem : ∀ item ∈ items, Takes place part (itemText item) (read item))
    (hbegins : ∀ item ∈ items, Begins (itemText item)) (hbound : items.length ≤ bound) :
    manyUpTo (separator >>= fun _ => part) bound
        (skipGap (items.flatMap (fun item => separatorText ++ itemText item) ++ rest)) =
      .done (items.map read) (skipGap rest) := by
  induction items generalizing bound with
  | nil => exact manyUpTo_of_isOpen (bind_isOpen hseparates.end_isOpen) bound
  | cons item items ih =>
      rw [List.forall_mem_cons] at hitem hbegins
      obtain ⟨bound, rfl⟩ := Nat.exists_eq_add_one_of_ne_zero (Nat.ne_zero_of_lt hbound)
      have hothers := ih hitem.2 hbegins.2 (Nat.le_of_succ_le_succ hbound)
      have hfollows := follows_items itemText hseparates items
      have hfirst := hitem.1 _ hfollows
      have hskip := skipGap_append hbegins.1
        (items.flatMap (fun item => separatorText ++ itemText item) ++ rest)
      rw [List.flatMap_cons, List.append_assoc, List.append_assoc, manyUpTo_succ,
        bind_done (hseparates.done _), hskip, hfirst]
      simp only [hothers, List.map_cons]

theorem length_skipGap_le (text : List Char) : (skipGap text).length ≤ text.length :=
  (List.dropWhile_sublist _).length_le

theorem length_le_skipGap_items (hseparates : Separates separator separatorText place rest)
    (items : List ι) : items.length ≤
      (skipGap (items.flatMap (fun item => separatorText ++ itemText item) ++ rest)).length := by
  induction items with
  | nil => exact Nat.zero_le _
  | cons item items ih =>
      have hshort := hseparates.shortens
        (itemText item ++ (items.flatMap (fun item => separatorText ++ itemText item) ++ rest))
      have htail := length_skipGap_le
        (items.flatMap (fun item => separatorText ++ itemText item) ++ rest)
      rw [List.length_append] at hshort
      rw [List.flatMap_cons, List.append_assoc, List.append_assoc, List.length_cons]
      omega

theorem many_items (hseparates : Separates separator separatorText place rest)
    (hitem : ∀ item ∈ items, Takes place part (itemText item) (read item))
    (hbegins : ∀ item ∈ items, Begins (itemText item)) :
    many (separator >>= fun _ => part)
        (skipGap (items.flatMap (fun item => separatorText ++ itemText item) ++ rest)) =
      .done (items.map read) (skipGap rest) := by
  have hbound : items.length ≤
      (skipGap (items.flatMap (fun item => separatorText ++ itemText item) ++ rest)).length :=
    length_le_skipGap_items hseparates items
  exact manyUpTo_items hseparates hitem hbegins hbound

end Items

/-! ## Chains of operators -/

theorem separates_operator {operator : String} (hoperator : operator = "and" ∨ operator = "or")
    (hmem : operator ∈ tighter.operators) (hnot : operator ∉ looser.operators)
    (hle : looser.strength ≤ tighter.strength) (hrest : Follows looser rest) :
    Separates (spaced (keyword operator)) (operatorText operator) tighter rest := by
  have hknown := operators_subset_primary tighter hmem
  constructor
  case done =>
    intro left
    have hkeyword : keyword operator (skipGap (skipGap (operatorText operator ++ left))) =
        .done () (' ' :: left) := by
      rw [skipGap_skipGap, skipGap_operator hknown]
      exact keyword_done operator (endsWord_sign (by decide) left)
    rw [spaced_done hkeyword, skipGap_blank]
  case follows => exact follows_operator _ hmem
  case shortens =>
    intro left
    rw [skipGap_operator hknown, List.length_append, List.length_cons]
    omega
  case end_follows => exact hrest.mono hle
  case end_isOpen =>
    apply spaced_isOpen
    rw [skipGap_skipGap]
    exact hrest.keyword_isOpen hoperator hnot

theorem chain_takes {ι : Type} {itemText : ι → List Char} (read : ι → Phrase)
    {operator : String} {join : List Phrase → Phrase} (first : ι) (items : List ι)
    (hseparates : ∀ rest, Follows looser rest →
      Separates (spaced (keyword operator)) (operatorText operator) tighter rest)
    (hitem : ∀ item ∈ first :: items, Takes tighter part (itemText item) (read item))
    (hbegins : ∀ item ∈ items, Begins (itemText item)) :
    Takes looser (chain operator join part)
      (joinedText (operatorText operator) ((first :: items).map itemText))
      (joined join (read first) (items.map read)) := by
  intro rest hrest
  rw [List.forall_mem_cons] at hitem
  have hbetween := hseparates rest hrest
  have htext : joinedText (operatorText operator) ((first :: items).map itemText) ++ rest =
      itemText first ++
        (items.flatMap (fun item => operatorText operator ++ itemText item) ++ rest) := by
    simp [joinedText, List.flatMap_map]
  have hfollows := follows_items itemText hbetween items
  have hfirst := hitem.1 _ hfollows
  have hcommitted : ∀ item ∈ items, Takes tighter (commit part) (itemText item) (read item) := by
    intro item hmem
    exact (hitem.2 item hmem).commit
  have htail := many_items hbetween hcommitted hbegins
  rw [htext, chain, bind_done hfirst, bind_done htail]
  rfl

/-- One operand is a chain as well. -/
theorem chain_takes_one {operator : String} {join : List Phrase → Phrase}
    (hseparates : ∀ rest, Follows looser rest →
      Separates (spaced (keyword operator)) (operatorText operator) tighter rest)
    (htakes : Takes tighter part text phrase) :
    Takes looser (chain operator join part) text phrase := by
  have hchain : Takes looser (chain operator join part)
      (joinedText (operatorText operator) ([()].map fun _ => text)) (joined join phrase []) :=
    chain_takes (fun _ => phrase) () [] hseparates (fun _ _ => htakes) (by simp)
  simpa [joinedText, joined] using hchain

theorem separates_or : ∀ rest, Follows .disjunction rest →
    Separates (spaced (keyword "or")) (operatorText "or") .conjunction rest := by
  intro rest hrest
  exact separates_operator (Or.inr rfl) (by decide) (by decide) (by decide) hrest

theorem separates_and : ∀ rest, Follows .conjunction rest →
    Separates (spaced (keyword "and")) (operatorText "and") .negation rest := by
  intro rest hrest
  exact separates_operator (Or.inl rfl) (by decide) (by decide) (by decide) hrest

theorem comparisonSign_isOpen {rest : List Char} (hrest : Follows .comparison rest) :
    (comparisonSign (skipGap rest)).IsOpen := by
  have hopen : ∀ input : List Char, input.head? ≠ some '=' → input.head? ≠ some '!' →
      (choice [do word "=="; pure true, do word "!="; pure false] input).IsOpen := by
    intro input hequal hdiffer
    apply choice_isOpen
    · apply bind_isOpen
      exact word_isOpen (dropWord_of_head? hequal ['='])
    · apply bind_isOpen
      exact word_isOpen (dropWord_of_head? hdiffer ['='])
  apply spaced_isOpen
  rw [skipGap_skipGap]
  rcases hrest.cases_skipGap with ⟨hskip, hclosing⟩ | ⟨operator, hoperator, left, hskip⟩
  · rw [hskip]
    apply hopen
    · intro heq
      rcases hclosing '=' heq with h | h
      · cases h
      · cases h
    · intro heq
      rcases hclosing '!' heq with h | h
      · cases h
      · cases h
  · simp only [Precedence.operators, List.mem_cons, List.not_mem_nil, or_false] at hoperator
    rw [hskip]
    rcases hoperator with rfl | rfl
    · exact hopen _ (by simp) (by simp)
    · exact hopen _ (by simp) (by simp)

theorem comparison_of_primary (htakes : Takes .primary (operand n) text phrase) :
    Takes .comparison (comparisonOf (operand n)) text phrase := by
  intro rest hrest
  have hleft := htakes rest (hrest.mono (by decide))
  obtain ⟨trace, htrace⟩ := comparisonSign_isOpen hrest
  rw [comparisonOf, bind_done hleft, bind_apply, Parser.optional, bind_fail htrace]
  rfl

theorem negation_of_comparison (hbegins : Begins text) (hunnegated : Unnegated text)
    (htakes : Takes .comparison (comparisonOf (operand n)) text phrase) (bound : Nat) :
    Takes .negation (negated n bound) text phrase := by
  intro rest hrest
  have hread : comparisonOf (operand n) (text ++ rest) = .done phrase (skipGap rest) :=
    htakes rest hrest
  cases bound with
  | zero => exact hread
  | succ bound =>
      have hopen : (spaced (keyword "not") (text ++ rest)).IsOpen := by
        apply spaced_isOpen
        rw [skipGap_append hbegins]
        exact hunnegated rest hrest.endsWord
      obtain ⟨trace, htrace⟩ := hopen
      rw [negated, negationUpTo, choice_cons_cons, bind_fail htrace]
      simp only [choice_singleton, hread]

/-- The next looser precedence. -/
def loosened : Precedence → Precedence
  | .primary => .comparison
  | .comparison => .negation
  | .negation => .conjunction
  | .conjunction | .disjunction => .disjunction

theorem ReadsAt.loosened (hreads : ReadsAt n text phrase place) (hbegins : Begins text)
    (hunnegated : 3 ≤ place.strength → Unnegated text) (hlength : text.length ≤ n) :
    ReadsAt n text phrase (loosened place) := by
  cases place with
  | disjunction => exact hreads
  | conjunction => exact chain_takes_one separates_or hreads
  | negation =>
      have hbounded : Takes .negation (negated n (n + 1)) text phrase :=
        hreads (n + 1) (Nat.le_succ_of_le hlength)
      exact chain_takes_one separates_and hbounded
  | comparison =>
      intro bound _
      have hplain : Unnegated text := hunnegated (Nat.le_refl 3)
      exact negation_of_comparison hbegins hplain hreads bound
  | primary => exact comparison_of_primary hreads

theorem eq_or_le_loosened (hle : looser.strength ≤ tighter.strength) :
    looser = tighter ∨
      looser.strength ≤ (loosened tighter).strength ∧
        (loosened tighter).strength < tighter.strength := by
  revert hle
  cases looser <;> cases tighter <;> decide

/-- A text that is read at its own level is read at every looser one. -/
theorem ReadsAt.loosen (hreads : ReadsAt n text phrase tighter)
    (hle : looser.strength ≤ tighter.strength) (hbegins : Begins text)
    (hunnegated : 3 ≤ tighter.strength → Unnegated text) (hlength : text.length ≤ n) :
    ReadsAt n text phrase looser := by
  -- one level at a time: the next looser level is not looser than what is asked for
  induction hstrength : tighter.strength using Nat.strongRecOn generalizing tighter with
  | ind strength ih =>
      rcases eq_or_le_loosened hle with rfl | ⟨hle', hlt⟩
      · exact hreads
      · have hnext : ReadsAt n text phrase (Phrase.loosened tighter) :=
          hreads.loosened hbegins hunnegated hlength
        have hunnegated' : 3 ≤ (Phrase.loosened tighter).strength → Unnegated text := by
          intro hthree
          exact hunnegated (Nat.le_trans hthree (Nat.le_of_lt hlt))
        rw [hstrength] at hlt
        exact ih _ hlt hnext hle' hunnegated' rfl

/-! ## Comparisons and negations -/

theorem comparisonSign_done (isEqual : Bool) (hbegins : Begins text) :
    comparisonSign (skipGap (signText isEqual ++ text)) = .done isEqual text := by
  have hskip := skipGap_append hbegins []
  rw [List.append_nil] at hskip
  have hsign : choice [do word "=="; pure true, do word "!="; pure false]
      (skipGap (skipGap (signText isEqual ++ text))) = .done isEqual (' ' :: text) := by
    cases isEqual <;> rfl
  rw [comparisonSign, spaced_done hsign, skipGap_blank, hskip]

theorem comparison_takes {isEqual : Bool} (hleft : Takes .primary (operand n) text phrase)
    (hright : Takes .primary (operand n) text' phrase') (hbegins : Begins text') :
    Takes .comparison (comparisonOf (operand n)) (text ++ (signText isEqual ++ text'))
      (.comparison isEqual phrase phrase') := by
  intro rest hrest
  have hsigned : Follows .primary (signText isEqual ++ (text' ++ rest)) := by
    cases isEqual with
    | true => exact follows_operator "==" (by decide) _
    | false => exact follows_operator "!=" (by decide) _
  have hread := hleft _ hsigned
  have hsign := comparisonSign_done isEqual (hbegins.append rest)
  have hside : commit (named "right-hand side of comparison" (operand n)) (text' ++ rest) =
      .done phrase' (skipGap rest) := by
    rw [Parser.commit, Parser.named, hright rest (hrest.mono (by decide))]
  rw [List.append_assoc, List.append_assoc, comparisonOf, bind_done hread, bind_apply,
    Parser.optional, bind_done hsign, bind_done hside]
  rfl

theorem negation_takes {bound : Nat} (htakes : Takes .negation (negated n bound) text phrase)
    (hbegins : Begins text) :
    Takes .negation (negated n (bound + 1)) ("not".toList ++ ' ' :: text) (.negation phrase) := by
  intro rest hrest
  have hskip := skipGap_append hbegins rest
  have hkeyword : keyword "not" (skipGap ("not".toList ++ ' ' :: (text ++ rest))) =
      .done () (' ' :: (text ++ rest)) := keyword_done "not" (endsWord_sign (by decide) _)
  have hnot := spaced_done hkeyword
  rw [skipGap_blank, hskip] at hnot
  have hbody := htakes.commit rest hrest
  have hfirst : (spaced (keyword "not") >>= fun _ =>
      commit (negated n bound) >>= fun body => pure (Phrase.negation body))
        ("not".toList ++ ' ' :: (text ++ rest)) = .done (.negation phrase) (skipGap rest) := by
    rw [bind_done hnot, bind_done hbody]
    rfl
  have hsplit : negated n (bound + 1) = choice [
      spaced (keyword "not") >>= fun _ =>
        commit (negated n bound) >>= fun body => pure (Phrase.negation body),
      comparisonOf (operand n)] := rfl
  rw [List.append_assoc, List.cons_append, hsplit]
  exact choice_cons_of_done hfirst _ _

theorem closing_done (rest : List Char) : closing (')' :: rest) = .done () (skipGap rest) := by
  have hspaced : spaced (char ')') (')' :: rest) = .done () (skipGap rest) := by
    apply spaced_done
    rfl
  rw [closing, Parser.commit, Parser.named, hspaced]

theorem bracketed_takes (htakes : Takes .disjunction (upTo n) text phrase)
    (hbegins : Begins text) : Takes .primary (operand n) (bracketed text) phrase := by
  intro rest _
  have hinside : spaced (upTo n) (text ++ ')' :: rest) = .done phrase (')' :: rest) := by
    have hread := htakes (')' :: rest) (follows_cons (Or.inl rfl) _ rest)
    rw [← skipGap_append hbegins] at hread
    exact spaced_done hread
  have hparenthesized : parenthesized (upTo n) ('(' :: (text ++ ')' :: rest)) =
      .done phrase rest := by
    have hopening : char '(' ('(' :: (text ++ ')' :: rest)) = .done () (text ++ ')' :: rest) := rfl
    rw [parenthesized, bind_done hopening, bind_done hinside]
    rfl
  have htext : bracketed text ++ rest = '(' :: (text ++ ')' :: rest) := by simp [bracketed]
  rw [htext, operand, primary]
  apply spaced_done
  rw [skipGap_cons rfl]
  exact choice_cons_of_done hparenthesized _ _

/-- An operator expression is read at every place, in parentheses if the place
asks for something tighter. -/
theorem readsAt_enclosed {own : Precedence}
    (hown : ∀ n, text.length ≤ n → ReadsAt n text phrase own) (hbegins : Begins text)
    (hunnegated : 3 ≤ own.strength → Unnegated text)
    (hlength : (enclosed own place text).length ≤ n) :
    ReadsAt n (enclosed own place text) phrase place := by
  by_cases hlt : own.strength < place.strength
  · rw [enclosed, if_pos hlt] at hlength ⊢
    -- the parentheses use up one level of depth, and the text inside is shorter by two
    have hlong : (bracketed text).length = text.length + 2 := by simp [bracketed]
    obtain ⟨n, rfl⟩ : ∃ less, n = less + 1 := ⟨n - 1, by omega⟩
    have hshort : text.length ≤ n := by omega
    have hinside : ReadsAt n text phrase .disjunction :=
      (hown n hshort).loosen (Nat.zero_le _) hbegins hunnegated hshort
    have hprimary : ReadsAt (n + 1) (bracketed text) phrase .primary :=
      bracketed_takes hinside hbegins
    have hplain : Unnegated (bracketed text) := unnegated_bracketed text
    apply hprimary.loosen _ (begins_bracketed text) (fun _ => hplain) hlength
    cases place <;> decide
  · rw [enclosed, if_neg hlt] at hlength ⊢
    exact (hown n hlength).loosen (Nat.le_of_not_lt hlt) hbegins hunnegated hlength

end Phrase

end ReqConflict
