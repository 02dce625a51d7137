import ReqConflict.Proofs.Expr.Places

/-!
# Reading operands

What binds most tightly is a literal, a path, a call, a quantifier, or an
expression in parentheses.  The branches of the grammar are tried in an order,
and names stand at the beginning of three of them.  For every kind of operand
this file shows that its own branch reads it and that no earlier branch can:
a call needs a parenthesis behind its name, and a quantifier one behind its
keyword, while behind a variable or a literal there is none.
-/

namespace ReqConflict.Phrase

open Text Text.Parser ReqConflict.Expr

variable {inner : Parser Phrase} {input rest word : List Char} {n : Nat} {phrase : Phrase}

theorem parenthesized_isOpen (hhead : input.head? ≠ some '(') :
    (parenthesized inner input).IsOpen :=
  bind_isOpen (char_isOpen hhead)

theorem isNameChar_quantifier (quantifier : Quantifier) :
    ∀ c ∈ quantifier.name.toList, isNameChar c = true := by
  have hall : quantifier.name.toList.all isNameChar = true := by cases quantifier <;> decide
  exact List.all_eq_true.mp hall

theorem isWordChar_quantifier (quantifier : Quantifier) :
    ∀ c ∈ quantifier.name.toList, isWordChar c = true :=
  forall_isWordChar (isNameChar_quantifier quantifier)

theorem quantifier_done (quantifier : Quantifier) (hrest : EndsWord rest) :
    Phrase.quantifier (quantifier.name.toList ++ rest) = .done quantifier rest := by
  cases quantifier with
  | any =>
      have hread := keyword_pure_done "any" Quantifier.any hrest
      exact choice_cons_of_done hread _ _
  | all =>
      have hany : (keyword "any" ("all".toList ++ rest)).IsOpen :=
        keyword_isOpen (isWordChar_quantifier .any) (isWordChar_quantifier .all) (by decide) hrest
      have hsecond : Phrase.quantifier ("all".toList ++ rest) =
          choice [do keyword "all"; pure Quantifier.all] ("all".toList ++ rest) :=
        choice_cons_of_isOpen (bind_isOpen hany) _ _
      have hread := keyword_pure_done "all" Quantifier.all hrest
      exact hsecond.trans (choice_singleton_of_done hread)

theorem quantifier_isOpen (hword : ∀ c ∈ word, isNameChar c = true) (hrest : EndsWord rest)
    (hne : ∀ quantifier : Quantifier, word ≠ quantifier.name.toList) :
    (Phrase.quantifier (word ++ rest)).IsOpen := by
  have hopen : ∀ quantifier : Quantifier, (keyword quantifier.name (word ++ rest)).IsOpen := by
    intro quantifier
    exact keyword_isOpen (isWordChar_quantifier quantifier) (forall_isWordChar hword)
      (hne quantifier) hrest
  apply choice_isOpen
  · exact bind_isOpen (hopen .any)
  · exact bind_isOpen (hopen .all)

/-- A word is no quantifier if it is another word, or if no parenthesis follows. -/
theorem quantification_isOpen (hword : ∀ c ∈ word, isNameChar c = true) (hrest : EndsWord rest)
    (hother : (∀ quantifier : Quantifier, word ≠ quantifier.name.toList) ∨
      (skipGap rest).head? ≠ some '(') :
    (quantification inner (word ++ rest)).IsOpen := by
  by_cases hne : ∀ quantifier : Quantifier, word ≠ quantifier.name.toList
  · exact bind_isOpen (quantifier_isOpen hword hrest hne)
  · obtain ⟨quantifier, hquantifier⟩ := Classical.not_forall.mp hne
    have hname : word = quantifier.name.toList := Classical.not_not.mp hquantifier
    have hhead : (skipGap rest).head? ≠ some '(' := hother.resolve_left hne
    rw [hname, quantification, bind_done (quantifier_done quantifier hrest)]
    apply bind_isOpen
    apply spaced_isOpen
    exact char_isOpen hhead

theorem callOf_isOpen {identifier : String} (hidentifier : isIdentifier identifier = true)
    (hrest : EndsWord rest) (hhead : (skipGap rest).head? ≠ some '(') :
    (callOf inner (identifier.toList ++ rest)).IsOpen := by
  have hname := name_done hidentifier hrest
  have hgap : gap rest = .done () (skipGap rest) := rfl
  rw [callOf, bind_done hname, bind_done hgap]
  exact bind_isOpen (char_isOpen hhead)

theorem isNameChar_bool (value : Bool) : ∀ c ∈ boolText value, isNameChar c = true := by
  have hall : (boolText value).all isNameChar = true := by cases value <;> decide
  exact List.all_eq_true.mp hall

theorem isWordChar_bool (value : Bool) : ∀ c ∈ boolText value, isWordChar c = true :=
  forall_isWordChar (isNameChar_bool value)

theorem literal_isOpen (hword : ∀ c ∈ word, isNameChar c = true) (hrest : EndsWord rest)
    (hne : ∀ value, word ≠ boolText value) (hhead : (word ++ rest).head? ≠ some '\'') :
    (literal (word ++ rest)).IsOpen := by
  have hletters := forall_isWordChar hword
  have htrue : (keyword "true" (word ++ rest)).IsOpen :=
    keyword_isOpen (isWordChar_bool true) hletters (hne true) hrest
  have hfalse : (keyword "false" (word ++ rest)).IsOpen :=
    keyword_isOpen (isWordChar_bool false) hletters (hne false) hrest
  have hquoted : (quotedText (word ++ rest)).IsOpen := bind_isOpen (char_isOpen hhead)
  have hsecond : literal (word ++ rest) = choice
      [do keyword "false"; pure (.bool false), quotedText] (word ++ rest) :=
    choice_cons_of_isOpen (bind_isOpen htrue) _ _
  rw [hsecond]
  exact choice_isOpen (bind_isOpen hfalse) hquoted

/-! ## Literals -/

/-- An operand that one of the branches reads. -/
theorem operand_done (hskip : skipGap input = input)
    (hchoice : choice [parenthesized (upTo n), quantification (upTo n), callOf (upTo n), literal,
      pathPhrase] input = .done phrase rest) :
    operand n input = .done phrase (skipGap rest) := by
  rw [operand, primary]
  apply spaced_done
  rw [hskip]
  exact hchoice

theorem begins_word {c : Char} (hc : isNameChar c = true) (left : List Char) :
    Begins (c :: left) := by
  refine ⟨c, left, rfl, ?_⟩
  cases hgap : isGap c with
  | false => rfl
  | true =>
      simp only [isGap, Bool.or_eq_true, beq_iff_eq] at hgap
      rcases hgap with ((rfl | rfl) | rfl) | rfl <;> cases hc

theorem begins_identifier {identifier : String} (hidentifier : isIdentifier identifier = true) :
    Begins identifier.toList := by
  obtain ⟨c, left, htext, hc, _⟩ := isIdentifier_iff.mp hidentifier
  rw [htext]
  exact begins_word (isNameChar_of_isAlpha hc) left

theorem head?_identifier_ne {d : Char} (hd : isNameChar d = false) {identifier : String}
    (hidentifier : isIdentifier identifier = true) (rest : List Char) :
    (identifier.toList ++ rest).head? ≠ some d := by
  obtain ⟨c, word, htext, hc, _⟩ := isIdentifier_iff.mp hidentifier
  rw [htext, List.cons_append, List.head?_cons]
  intro heq
  have hname := isNameChar_of_isAlpha hc
  rw [Option.some.inj heq, hd] at hname
  cases hname

theorem begins_boolText (value : Bool) : Begins (boolText value) := by
  cases value with
  | true => exact ⟨'t', _, rfl, rfl⟩
  | false => exact ⟨'f', _, rfl, rfl⟩

theorem boolText_eq (value : Bool) : ∃ identifier : String,
    boolText value = identifier.toList ∧ isIdentifier identifier = true := by
  cases value with
  | true => exact ⟨"true", rfl, by decide⟩
  | false => exact ⟨"false", rfl, by decide⟩

theorem literal_boolText (value : Bool) (hrest : EndsWord rest) :
    literal (boolText value ++ rest) = .done (.bool value) rest := by
  cases value with
  | true =>
      have hread := keyword_pure_done "true" (Phrase.bool true) hrest
      exact choice_cons_of_done hread _ _
  | false =>
      have htrue : (keyword "true" ("false".toList ++ rest)).IsOpen :=
        keyword_isOpen (isWordChar_bool true) (isWordChar_bool false) (by decide) hrest
      have hsecond : literal ("false".toList ++ rest) = choice
          [do keyword "false"; pure (.bool false), quotedText] ("false".toList ++ rest) :=
        choice_cons_of_isOpen (bind_isOpen htrue) _ _
      have hread := keyword_pure_done "false" (Phrase.bool false) hrest
      exact hsecond.trans (choice_cons_of_done hread _ _)

theorem bool_takes (n : Nat) (value : Bool) :
    Takes .primary (operand n) (boolText value) (.bool value) := by
  intro rest hrest
  obtain ⟨identifier, htext, hidentifier⟩ := boolText_eq value
  have hends := hrest.endsWord
  have hhead := hrest.head?_skipGap_ne
  have hparenthesized : (parenthesized (upTo n) (boolText value ++ rest)).IsOpen := by
    apply parenthesized_isOpen
    cases value <;> simp [boolText]
  have hquantification : (quantification (upTo n) (boolText value ++ rest)).IsOpen :=
    quantification_isOpen (isNameChar_bool value) hends (Or.inr hhead)
  have hcall : (callOf (upTo n) (boolText value ++ rest)).IsOpen := by
    rw [htext]
    exact callOf_isOpen hidentifier hends hhead
  apply operand_done (skipGap_append (begins_boolText value) rest)
  rw [choice_cons_of_isOpen hparenthesized, choice_cons_of_isOpen hquantification,
    choice_cons_of_isOpen hcall]
  exact choice_cons_of_done (literal_boolText value hends) _ _

theorem quotedText_done {value : List Char} (hvalue : '\'' ∉ value) (rest : List Char) :
    Phrase.quotedText (Expr.quotedText value ++ rest) =
      .done (.text (String.ofList value)) rest := by
  have hplain : ∀ c ∈ value, (c != '\'') = true := by
    intro c hc
    rw [bne_iff_ne]
    exact fun heq => hvalue (heq ▸ hc)
  have htext : Expr.quotedText value ++ rest = '\'' :: (value ++ '\'' :: rest) := by
    simp [Expr.quotedText]
  have hopening : char '\'' ('\'' :: (value ++ '\'' :: rest)) =
      .done () (value ++ '\'' :: rest) := rfl
  have hspan : span (· != '\'') (value ++ '\'' :: rest) = .done value ('\'' :: rest) := by
    rw [span, List.takeWhile_append_of_pos hplain, List.dropWhile_append_of_pos hplain]
    simp
  rw [htext, Phrase.quotedText, bind_done hopening, bind_done hspan]
  rfl

theorem literal_quotedText {value : List Char} (hvalue : '\'' ∉ value) (rest : List Char) :
    literal (Expr.quotedText value ++ rest) = .done (.text (String.ofList value)) rest := by
  have hends : EndsWord (Expr.quotedText value ++ rest) := endsWord_sign (by decide) _
  have hkeyword : ∀ value', (keyword (String.ofList (boolText value'))
      ([] ++ (Expr.quotedText value ++ rest))).IsOpen := by
    intro value'
    have hletters : ∀ c ∈ (String.ofList (boolText value')).toList, isWordChar c = true := by
      rw [String.toList_ofList]
      exact isWordChar_bool value'
    apply keyword_isOpen hletters (List.forall_mem_nil _) _ hends
    cases value' <;> decide
  have hsecond : literal (Expr.quotedText value ++ rest) = choice
      [do keyword "false"; pure (.bool false), Phrase.quotedText]
        (Expr.quotedText value ++ rest) :=
    choice_cons_of_isOpen (bind_isOpen (hkeyword true)) _ _
  have hthird : choice [do keyword "false"; pure (.bool false), Phrase.quotedText]
      (Expr.quotedText value ++ rest) =
        choice [Phrase.quotedText] (Expr.quotedText value ++ rest) :=
    choice_cons_of_isOpen (bind_isOpen (hkeyword false)) _ _
  rw [hsecond, hthird]
  exact choice_singleton_of_done (quotedText_done hvalue rest)

theorem begins_quotedText (value : List Char) : Begins (Expr.quotedText value) :=
  ⟨'\'', value ++ ['\''], rfl, rfl⟩

theorem text_takes (n : Nat) {value : List Char} (hvalue : '\'' ∉ value) :
    Takes .primary (operand n) (Expr.quotedText value) (.text (String.ofList value)) := by
  intro rest _
  have hends : EndsWord (Expr.quotedText value ++ rest) := endsWord_sign (by decide) _
  have hparenthesized : (parenthesized (upTo n) (Expr.quotedText value ++ rest)).IsOpen := by
    apply parenthesized_isOpen
    simp [Expr.quotedText]
  have hquantification : (quantification (upTo n) (Expr.quotedText value ++ rest)).IsOpen := by
    apply quantification_isOpen (List.forall_mem_nil _) hends
    left
    intro quantifier
    cases quantifier <;> decide
  have hcall : (callOf (upTo n) (Expr.quotedText value ++ rest)).IsOpen := by
    apply bind_isOpen
    apply name_isOpen
    intro c hc
    have hc' : '\'' = c := by simpa [Expr.quotedText] using hc
    rw [← hc']
    rfl
  apply operand_done (skipGap_append (begins_quotedText value) rest)
  rw [choice_cons_of_isOpen hparenthesized, choice_cons_of_isOpen hquantification,
    choice_cons_of_isOpen hcall]
  exact choice_cons_of_done (literal_quotedText hvalue rest) _ _

/-! ## Paths -/

theorem isIdentifier_attribute (wanted : Attribute) : isIdentifier wanted.name = true := by
  cases wanted <;> decide

def attributesText (attributes : List Attribute) : List Char :=
  attributes.flatMap fun wanted => '.' :: wanted.name.toList

theorem endsWord_attributes (attributes : List Attribute) (hrest : EndsWord rest) :
    EndsWord (attributesText attributes ++ rest) := by
  cases attributes with
  | nil => exact hrest
  | cons wanted attributes => exact endsWord_sign (by decide) _

theorem manyUpTo_attributes (attributes : List Attribute) {bound : Nat}
    (hrest : EndsWord rest) (hdot : rest.head? ≠ some '.') (hbound : attributes.length ≤ bound) :
    manyUpTo (char '.' >>= fun _ => name) bound (attributesText attributes ++ rest) =
      .done (attributes.map Attribute.name) rest := by
  induction attributes generalizing bound with
  | nil => exact manyUpTo_of_isOpen (bind_isOpen (char_isOpen hdot)) bound
  | cons wanted attributes ih =>
      obtain ⟨bound, rfl⟩ := Nat.exists_eq_add_one_of_ne_zero (Nat.ne_zero_of_lt hbound)
      have hothers := ih (Nat.le_of_succ_le_succ hbound)
      have htext : attributesText (wanted :: attributes) ++ rest =
          '.' :: (wanted.name.toList ++ (attributesText attributes ++ rest)) := by
        simp [attributesText]
      have hends := endsWord_attributes attributes hrest
      have hname := name_done (isIdentifier_attribute wanted) hends
      have hdotted : char '.' ('.' :: (wanted.name.toList ++ (attributesText attributes ++ rest))) =
          .done () (wanted.name.toList ++ (attributesText attributes ++ rest)) := rfl
      rw [htext, manyUpTo_succ, bind_done hdotted, hname]
      simp only [hothers, List.map_cons]

theorem length_le_attributesText (attributes : List Attribute) :
    attributes.length ≤ (attributesText attributes).length := by
  have htext : ∀ wanted : Attribute, ∃ left, '.' :: wanted.name.toList = '.' :: left :=
    fun wanted => ⟨wanted.name.toList, rfl⟩
  exact length_le_flatMap htext attributes

theorem pathText_append (root : String) (attributes : List Attribute) (rest : List Char) :
    pathText root attributes ++ rest = root.toList ++ (attributesText attributes ++ rest) := by
  rw [pathText, List.append_assoc]
  rfl

theorem pathPhrase_done {root : String} (hroot : isIdentifier root = true)
    (attributes : List Attribute) (hrest : EndsWord rest) (hdot : rest.head? ≠ some '.') :
    pathPhrase (pathText root attributes ++ rest) =
      .done (.path root (attributes.map Attribute.name)) rest := by
  have hends := endsWord_attributes attributes hrest
  have hmany : many (char '.' >>= fun _ => name) (attributesText attributes ++ rest) =
      .done (attributes.map Attribute.name) rest := by
    apply manyUpTo_attributes attributes hrest hdot
    have hlength := length_le_attributesText attributes
    rw [List.length_append]
    omega
  have hnames : separated1 (char '.') name (root.toList ++ (attributesText attributes ++ rest)) =
      .done (root :: attributes.map Attribute.name) rest := by
    rw [separated1, bind_done (name_done hroot hends), bind_done hmany]
    rfl
  rw [pathText_append, pathPhrase, bind_done hnames]
  rfl

theorem head?_skipGap_attributes (attributes : List Attribute)
    (hrest : (skipGap rest).head? ≠ some '(') :
    (skipGap (attributesText attributes ++ rest)).head? ≠ some '(' := by
  cases attributes with
  | nil => exact hrest
  | cons wanted attributes =>
      have hskip : skipGap (attributesText (wanted :: attributes) ++ rest) =
          attributesText (wanted :: attributes) ++ rest := rfl
      rw [hskip]
      simp [attributesText]

theorem begins_pathText {root : String} (hroot : isIdentifier root = true)
    (attributes : List Attribute) : Begins (pathText root attributes) :=
  (begins_identifier hroot).append (attributesText attributes)

theorem path_takes (n : Nat) {root : String} (hroot : isIdentifier root = true)
    (hfree : root ∉ reservedNames) (attributes : List Attribute) :
    Takes .primary (operand n) (pathText root attributes)
      (.path root (attributes.map Attribute.name)) := by
  intro rest hrest
  have hword := isNameChar_of_isIdentifier hroot
  have hends := endsWord_attributes attributes hrest.endsWord
  have hhead := head?_skipGap_attributes attributes hrest.head?_skipGap_ne
  have hpath := pathPhrase_done hroot attributes hrest.endsWord (hrest.head?_ne (by decide))
  have hbool : ∀ value, root.toList ≠ boolText value := by
    intro value heq
    apply hfree
    have hname : root = String.ofList (boolText value) := by rw [← heq, String.ofList_toList]
    rw [hname]
    cases value <;> decide
  rw [pathText_append] at hpath
  let input := root.toList ++ (attributesText attributes ++ rest)
  have hparenthesized : (parenthesized (upTo n) input).IsOpen :=
    parenthesized_isOpen (head?_identifier_ne (by decide) hroot _)
  have hquantification : (quantification (upTo n) input).IsOpen :=
    quantification_isOpen hword hends (Or.inr hhead)
  have hcall : (callOf (upTo n) input).IsOpen := callOf_isOpen hroot hends hhead
  have hliteral : (literal input).IsOpen :=
    literal_isOpen hword hends hbool (head?_identifier_ne (by decide) hroot _)
  apply operand_done (skipGap_append (begins_pathText hroot attributes) rest)
  rw [pathText_append, choice_cons_of_isOpen hparenthesized,
    choice_cons_of_isOpen hquantification, choice_cons_of_isOpen hcall,
    choice_cons_of_isOpen hliteral]
  exact choice_singleton_of_done hpath

/-! ## Calls and quantifiers -/

theorem isIdentifier_builtin (function : Builtin) : isIdentifier function.name = true := by
  cases function <;> decide

theorem builtin_ne_quantifier (function : Builtin) (quantifier : Quantifier) :
    function.name.toList ≠ quantifier.name.toList := by
  cases function <;> cases quantifier <;> decide

theorem separates_comma (rest : List Char) :
    Separates (spaced (char ',')) [',', ' '] .disjunction (')' :: rest) := by
  constructor
  case done =>
    intro left
    have hcomma : char ',' (skipGap (skipGap ([',', ' '] ++ left))) = .done () (' ' :: left) := rfl
    rw [spaced_done hcomma, skipGap_blank]
  case follows =>
    intro left
    exact follows_cons (Or.inr rfl) _ (' ' :: left)
  case shortens =>
    intro left
    have hskip : skipGap ([',', ' '] ++ left) = ',' :: ' ' :: left := rfl
    rw [hskip, List.length_cons, List.length_cons]
    omega
  case end_follows => exact follows_cons (Or.inl rfl) _ rest
  case end_isOpen =>
    apply spaced_isOpen
    apply char_isOpen
    simp [skipGap, isGap]

/-- Arguments are read up to the parenthesis that closes their list. -/
theorem separated_done {ι : Type} {itemText : ι → List Char} {read : ι → Phrase} {first : ι}
    {items : List ι}
    (hitem : ∀ item ∈ first :: items, Takes .disjunction inner (itemText item) (read item))
    (hbegins : ∀ item ∈ items, Begins (itemText item)) (rest : List Char) :
    separated (spaced (char ',')) inner
        (joinedText [',', ' '] ((first :: items).map itemText) ++ ')' :: rest) =
      .done (read first :: items.map read) (')' :: rest) := by
  rw [List.forall_mem_cons] at hitem
  have hcomma := separates_comma rest
  have htext : joinedText [',', ' '] ((first :: items).map itemText) ++ ')' :: rest =
      itemText first ++
        (items.flatMap (fun item => [',', ' '] ++ itemText item) ++ ')' :: rest) := by
    simp [joinedText, List.flatMap_map]
  have hfollows := follows_items itemText hcomma items
  have hfirst := hitem.1 _ hfollows
  have htail := many_items hcomma hitem.2 hbegins
  have hnames : separated1 (spaced (char ',')) inner
      (itemText first ++
        (items.flatMap (fun item => [',', ' '] ++ itemText item) ++ ')' :: rest)) =
      .done (read first :: items.map read) (')' :: rest) := by
    rw [separated1, bind_done hfirst, bind_done htail]
    rfl
  rw [htext, separated, hnames]

def callText (function : Builtin) (arguments : List (List Char)) : List Char :=
  function.name.toList ++ bracketed (joinedText [',', ' '] arguments)

theorem begins_callText (function : Builtin) (arguments : List (List Char)) :
    Begins (callText function arguments) :=
  (begins_identifier (isIdentifier_builtin function)).append _

theorem callOf_done {function : String} {arguments rest : List Char} {phrases : List Phrase}
    (hfunction : isIdentifier function = true)
    (harguments : separated (spaced (char ',')) inner (arguments ++ ')' :: rest) =
      .done phrases (')' :: rest)) :
    callOf inner (function.toList ++ '(' :: (arguments ++ ')' :: rest)) =
      .done (.call function phrases) (skipGap rest) := by
  have hname : name (function.toList ++ '(' :: (arguments ++ ')' :: rest)) =
      .done function ('(' :: (arguments ++ ')' :: rest)) :=
    name_done hfunction (endsWord_sign (by decide) _)
  have hgap : gap ('(' :: (arguments ++ ')' :: rest)) =
      .done () ('(' :: (arguments ++ ')' :: rest)) := rfl
  have hopening : char '(' ('(' :: (arguments ++ ')' :: rest)) =
      .done () (arguments ++ ')' :: rest) := rfl
  rw [callOf, bind_done hname, bind_done hgap, bind_done hopening, bind_done harguments,
    bind_done (closing_done rest)]
  rfl

theorem call_takes {ι : Type} {itemText : ι → List Char} {read : ι → Phrase} {first : ι}
    {items : List ι} (function : Builtin)
    (hitem : ∀ item ∈ first :: items, Takes .disjunction (upTo n) (itemText item) (read item))
    (hbegins : ∀ item ∈ items, Begins (itemText item)) :
    Takes .primary (operand n) (callText function ((first :: items).map itemText))
      (.call function.name (read first :: items.map read)) := by
  intro rest _
  let arguments := joinedText [',', ' '] ((first :: items).map itemText)
  let input := function.name.toList ++ '(' :: (arguments ++ ')' :: rest)
  have hfunction := isIdentifier_builtin function
  have hword := isNameChar_of_isIdentifier hfunction
  have htext : callText function ((first :: items).map itemText) ++ rest = input := by
    simp [callText, bracketed, input, arguments]
  have hends : EndsWord ('(' :: (arguments ++ ')' :: rest)) := endsWord_sign (by decide) _
  have hparenthesized : (parenthesized (upTo n) input).IsOpen :=
    parenthesized_isOpen (head?_identifier_ne (by decide) hfunction _)
  have hquantification : (quantification (upTo n) input).IsOpen :=
    quantification_isOpen hword hends (Or.inl (builtin_ne_quantifier function))
  have hcall := callOf_done hfunction (separated_done hitem hbegins rest)
  have hbranch : choice [parenthesized (upTo n), quantification (upTo n), callOf (upTo n), literal,
      pathPhrase] (callText function ((first :: items).map itemText) ++ rest) =
      .done (.call function.name (read first :: items.map read)) (skipGap rest) := by
    rw [htext, choice_cons_of_isOpen hparenthesized, choice_cons_of_isOpen hquantification]
    exact choice_cons_of_done hcall _ _
  have hskip := skipGap_append (begins_callText function ((first :: items).map itemText)) rest
  rw [operand_done hskip hbranch, skipGap_skipGap]

def quantifiedText (quantifier : Quantifier) (binder : String) (list body : List Char) :
    List Char :=
  quantifier.name.toList ++
    bracketed (binder.toList ++ (operatorText "in" ++ (list ++ ',' :: ' ' :: body)))

theorem begins_quantifiedText (quantifier : Quantifier) (binder : String)
    (list body : List Char) : Begins (quantifiedText quantifier binder list body) := by
  cases quantifier with
  | any => exact ⟨'a', _, rfl, rfl⟩
  | all => exact ⟨'a', _, rfl, rfl⟩

theorem keyword_in_done {text : List Char} (hbegins : Begins text) :
    spaced (keyword "in") (operatorText "in" ++ text) = .done () text := by
  have hkeyword : keyword "in" (skipGap (operatorText "in" ++ text)) = .done () (' ' :: text) :=
    keyword_done "in" (endsWord_sign (by decide) text)
  have hskip := skipGap_append hbegins []
  rw [List.append_nil] at hskip
  rw [spaced_done hkeyword, skipGap_blank, hskip]

theorem comma_done {text : List Char} (hbegins : Begins text) :
    commit (named "',' before quantifier body" (spaced (char ','))) (',' :: ' ' :: text) =
      .done () text := by
  have hcomma : char ',' (skipGap (',' :: ' ' :: text)) = .done () (' ' :: text) := rfl
  have hskip := skipGap_append hbegins []
  rw [List.append_nil] at hskip
  have hspaced := spaced_done hcomma
  rw [skipGap_blank, hskip] at hspaced
  rw [Parser.commit, Parser.named, hspaced]

theorem quantified_takes (quantifier : Quantifier) {binder : String} {list body : List Char}
    {listPhrase bodyPhrase : Phrase} (hbinder : isIdentifier binder = true)
    (hlist : Takes .disjunction (upTo n) list listPhrase) (hlistBegins : Begins list)
    (hbody : Takes .disjunction (upTo n) body bodyPhrase) (hbodyBegins : Begins body) :
    Takes .primary (operand n) (quantifiedText quantifier binder list body)
      (.quantified quantifier binder listPhrase bodyPhrase) := by
  intro rest _
  -- the texts that remain as the parts of the quantifier are read one by one
  let afterList := ',' :: ' ' :: (body ++ ')' :: rest)
  let afterBinder := operatorText "in" ++ (list ++ afterList)
  let input := quantifier.name.toList ++ '(' :: (binder.toList ++ afterBinder)
  have htext : quantifiedText quantifier binder list body ++ rest = input := by
    simp [quantifiedText, bracketed, input, afterBinder, afterList]
  have hquantifier : Phrase.quantifier input =
      .done quantifier ('(' :: (binder.toList ++ afterBinder)) :=
    quantifier_done quantifier (endsWord_sign (by decide) _)
  have hopening : spaced (char '(') ('(' :: (binder.toList ++ afterBinder)) =
      .done () (binder.toList ++ afterBinder) := by
    have hparen : char '(' (skipGap ('(' :: (binder.toList ++ afterBinder))) =
        .done () (binder.toList ++ afterBinder) := rfl
    rw [spaced_done hparen, skipGap_append (begins_identifier hbinder)]
  have hname : name (binder.toList ++ afterBinder) = .done binder afterBinder :=
    name_done hbinder (endsWord_sign (by decide) _)
  have hin : spaced (keyword "in") afterBinder = .done () (list ++ afterList) :=
    keyword_in_done (hlistBegins.append afterList)
  have hlistRead : commit (upTo n) (list ++ afterList) = .done listPhrase afterList :=
    hlist.commit afterList (follows_cons (Or.inr rfl) _ _)
  have hcomma := comma_done (hbodyBegins.append (')' :: rest))
  have hbodyRead : commit (upTo n) (body ++ ')' :: rest) = .done bodyPhrase (')' :: rest) :=
    hbody.commit (')' :: rest) (follows_cons (Or.inl rfl) _ rest)
  have hread : quantification (upTo n) input =
      .done (.quantified quantifier binder listPhrase bodyPhrase) (skipGap rest) := by
    rw [quantification, bind_done hquantifier, bind_done hopening, bind_done hname, bind_done hin,
      bind_done hlistRead, bind_done hcomma, bind_done hbodyRead, bind_done (closing_done rest)]
    rfl
  have hparenthesized : (parenthesized (upTo n) input).IsOpen := by
    apply parenthesized_isOpen
    cases quantifier <;> simp [input, Quantifier.name]
  have hbranch : choice [parenthesized (upTo n), quantification (upTo n), callOf (upTo n), literal,
      pathPhrase] (quantifiedText quantifier binder list body ++ rest) =
      .done (.quantified quantifier binder listPhrase bodyPhrase) (skipGap rest) := by
    rw [htext, choice_cons_of_isOpen hparenthesized]
    exact choice_cons_of_done hread _ _
  have hskip := skipGap_append (begins_quantifiedText quantifier binder list body) rest
  rw [operand_done hskip hbranch, skipGap_skipGap]

end ReqConflict.Phrase
