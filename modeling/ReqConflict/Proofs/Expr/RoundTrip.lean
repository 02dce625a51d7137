import ReqConflict.Proofs.Expr.Formed
import ReqConflict.Proofs.Expr.Operands

/-!
# The round trip of expressions

A well formed expression whose names can be written is read back from its text
as it is.  The proof goes by its constructors: an operator expression is read at
its own level if its operands are read at their places, and the parentheses
carry it to the tighter places.  Names come back because every place they stand
at is one where they are bound.
-/

namespace ReqConflict

open Text Text.Parser Phrase

namespace Expr

mutual

/-- The expression with its names as they are written. -/
def phrase : Expr → Phrase
  | bool value => .bool value
  | text value => .text value
  | path root attributes => .path root (attributes.map Attribute.name)
  | negation body => .negation (phrase body)
  | conjunction items => .conjunction (phrases items)
  | disjunction items => .disjunction (phrases items)
  | comparison isEqual left right => .comparison isEqual (phrase left) (phrase right)
  | call function arguments => .call function.name (phrases arguments)
  | quantified quantifier binder list body =>
      .quantified quantifier binder (phrase list) (phrase body)

def phrases : List Expr → List Phrase
  | [] => []
  | item :: items => phrase item :: phrases items

end

theorem phrases_eq_map (items : List Expr) : phrases items = items.map phrase := by
  induction items with
  | nil => rfl
  | cons item items ih => rw [phrases, ih, List.map_cons]

theorem textsAt_eq_map (place : Precedence) (items : List Expr) :
    textsAt place items = items.map (textAt place) := by
  induction items with
  | nil => rfl
  | cons item items ih => rw [textsAt, ih, List.map_cons]

/-- What is shown of every expression: its text is read at every place. -/
structure IsRead (expr : Expr) : Prop where
  begins : ∀ place, Begins (expr.textAt place)
  unnegated : Unnegated (expr.textAt .primary)
  readsAt : ∀ place n, (expr.textAt place).length ≤ n →
    ReadsAt n (expr.textAt place) expr.phrase place

variable {expr : Expr} {text : List Char} {n : Nat}

theorem isRead_of_primary (text : List Char) (htext : ∀ place, expr.textAt place = text)
    (hbegins : Begins text) (hunnegated : Unnegated text)
    (htakes : ∀ n, text.length ≤ n → Takes .primary (operand n) text expr.phrase) :
    expr.IsRead where
  begins := by
    intro place
    rw [htext]
    exact hbegins
  unnegated := by
    rw [htext]
    exact hunnegated
  readsAt := by
    intro place n hlength
    rw [htext] at hlength ⊢
    have hreads : ReadsAt n text expr.phrase .primary := htakes n hlength
    have hle : place.strength ≤ Precedence.primary.strength := by cases place <;> decide
    exact hreads.loosen hle hbegins (fun _ => hunnegated) hlength

theorem isRead_of_operator (own : Precedence) (text : List Char) (hown : own ≠ .primary)
    (htext : ∀ place, expr.textAt place = enclosed own place text) (hbegins : Begins text)
    (hunnegated : 3 ≤ own.strength → Unnegated text)
    (hreads : ∀ n, text.length ≤ n → ReadsAt n text expr.phrase own) : expr.IsRead where
  begins := by
    intro place
    rw [htext, enclosed]
    split
    · exact begins_bracketed text
    · exact hbegins
  unnegated := by
    have hlt : own.strength < Precedence.primary.strength := by
      revert hown
      cases own <;> decide
    rw [htext, enclosed, if_pos hlt]
    exact unnegated_bracketed text
  readsAt := by
    intro place n hlength
    rw [htext] at hlength ⊢
    exact readsAt_enclosed hreads hbegins hunnegated hlength

theorem IsRead.takes_upTo (hread : expr.IsRead) (hlength : (expr.textAt .disjunction).length < n) :
    Takes .disjunction (upTo n) (expr.textAt .disjunction) expr.phrase := by
  obtain ⟨n, rfl⟩ : ∃ less, n = less + 1 := ⟨n - 1, by omega⟩
  exact hread.readsAt .disjunction n (Nat.le_of_lt_succ hlength)

theorem length_le_joinedText (separator : List Char) {texts : List (List Char)}
    (hmem : text ∈ texts) : text.length ≤ (joinedText separator texts).length := by
  cases texts with
  | nil => cases hmem
  | cons first others =>
      rw [joinedText, List.length_append]
      rcases List.mem_cons.mp hmem with rfl | hmem
      · omega
      · obtain ⟨before, after, rfl⟩ := List.append_of_mem hmem
        simp only [List.flatMap_append, List.flatMap_cons, List.length_append]
        omega

theorem length_textAt_le (separator : List Char) (place : Precedence) {item : Expr}
    {items : List Expr} (hitem : item ∈ items) :
    (item.textAt place).length ≤ (joinedText separator (items.map (textAt place))).length := by
  apply length_le_joinedText
  exact List.mem_map_of_mem hitem

theorem begins_joinedText (separator : List Char) {first : List Char}
    (others : List (List Char)) (hbegins : Begins first) :
    Begins (joinedText separator (first :: others)) :=
  hbegins.append _

/-! ## One lemma for each form of expression -/

theorem isRead_bool (value : Bool) : (bool value).IsRead := by
  have hunnegated : Unnegated (boolText value) := by
    have hne : boolText value ≠ "not".toList := by cases value <;> decide
    have hends : EndsWord [] := by simp [EndsWord]
    simpa using unnegated_word (isNameChar_bool value) hne hends
  apply isRead_of_primary (boolText value)
  · intro place
    rfl
  · exact begins_boolText value
  · exact hunnegated
  · intro n _
    exact bool_takes n value

theorem isRead_text {value : String} (hvalue : '\'' ∉ value.toList) :
    (Expr.text value).IsRead := by
  apply isRead_of_primary (Expr.quotedText value.toList)
  · intro place
    rfl
  · exact begins_quotedText value.toList
  · have hends : EndsWord (Expr.quotedText value.toList) := endsWord_sign (by decide) _
    exact unnegated_word (List.forall_mem_nil _) (by decide) hends
  · intro n _
    have htakes := text_takes n hvalue
    rw [String.ofList_toList] at htakes
    exact htakes

theorem isRead_path {root : String} (hroot : isIdentifier root = true)
    (hfree : root ∉ reservedNames) (attributes : List Attribute) :
    (path root attributes).IsRead := by
  have hends := endsWord_attributes attributes (show EndsWord [] by simp [EndsWord])
  rw [List.append_nil] at hends
  have hne : root.toList ≠ "not".toList := by
    intro heq
    apply hfree
    rw [String.toList_inj.mp heq]
    decide
  apply isRead_of_primary (pathText root attributes)
  · intro place
    rfl
  · exact begins_pathText hroot attributes
  · exact unnegated_word (isNameChar_of_isIdentifier hroot) hne hends
  · intro n _
    exact path_takes n hroot hfree attributes

theorem isRead_negation {body : Expr} (hbody : body.IsRead) : (negation body).IsRead := by
  apply isRead_of_operator .negation ("not".toList ++ ' ' :: body.textAt .negation) (by decide)
  · intro place
    rfl
  · exact ⟨'n', _, rfl, rfl⟩
  · intro hthree
    exact absurd hthree (by decide)
  · intro n hlength bound hbound
    simp only [List.length_append, List.length_cons] at hlength hbound
    obtain ⟨bound, rfl⟩ : ∃ less, bound = less + 1 := ⟨bound - 1, by omega⟩
    apply negation_takes _ (hbody.begins .negation)
    apply hbody.readsAt .negation n
    · omega
    · omega

theorem isRead_conjunction {first second : Expr} {others : List Expr}
    (hitems : ∀ item ∈ first :: second :: others, item.IsRead) :
    (conjunction (first :: second :: others)).IsRead := by
  apply isRead_of_operator .conjunction _ (by decide)
  · intro place
    rw [textAt, textsAt_eq_map]
  · have hfirst : first.IsRead := hitems first List.mem_cons_self
    exact begins_joinedText _ _ (hfirst.begins .negation)
  · intro hthree
    exact absurd hthree (by decide)
  · intro n hlength
    rw [phrase, phrases_eq_map]
    apply chain_takes phrase first (second :: others) separates_and
    · intro item hitem
      have hshort : (item.textAt .negation).length ≤ n :=
        Nat.le_trans (length_textAt_le _ .negation hitem) hlength
      exact (hitems item hitem).readsAt .negation n hshort (n + 1) (by omega)
    · intro item hitem
      have hread : item.IsRead := hitems item (List.mem_cons_of_mem first hitem)
      exact hread.begins .negation

theorem isRead_disjunction {first second : Expr} {others : List Expr}
    (hitems : ∀ item ∈ first :: second :: others, item.IsRead) :
    (disjunction (first :: second :: others)).IsRead := by
  apply isRead_of_operator .disjunction _ (by decide)
  · intro place
    rw [textAt, textsAt_eq_map]
  · have hfirst : first.IsRead := hitems first List.mem_cons_self
    exact begins_joinedText _ _ (hfirst.begins .conjunction)
  · intro hthree
    exact absurd hthree (by decide)
  · intro n hlength
    rw [phrase, phrases_eq_map]
    apply chain_takes phrase first (second :: others) separates_or
    · intro item hitem
      have hshort : (item.textAt .conjunction).length ≤ n :=
        Nat.le_trans (length_textAt_le _ .conjunction hitem) hlength
      exact (hitems item hitem).readsAt .conjunction n hshort
    · intro item hitem
      have hread : item.IsRead := hitems item (List.mem_cons_of_mem first hitem)
      exact hread.begins .conjunction

theorem isRead_comparison (isEqual : Bool) {left right : Expr} (hleft : left.IsRead)
    (hright : right.IsRead) : (comparison isEqual left right).IsRead := by
  have hends : EndsWord (signText isEqual ++ right.textAt .primary) := by
    cases isEqual <;> exact endsWord_sign (by decide) _
  have hsign : signText isEqual ++ right.textAt .primary ≠ [] := by
    cases isEqual <;> simp [signText, operatorText]
  apply isRead_of_operator .comparison _ (by decide)
  · intro place
    rfl
  · exact (hleft.begins .primary).append _
  · intro _
    exact hleft.unnegated.append hends hsign
  · intro n hlength
    simp only [List.length_append] at hlength
    apply comparison_takes
    · exact hleft.readsAt .primary n (by omega)
    · exact hright.readsAt .primary n (by omega)
    · exact hright.begins .primary

theorem isRead_call (function : Builtin) {first : Expr} {others : List Expr}
    (hitems : ∀ item ∈ first :: others, item.IsRead) :
    (call function (first :: others)).IsRead := by
  apply isRead_of_primary (callText function ((first :: others).map (textAt .disjunction)))
  · intro place
    rw [textAt, textsAt_eq_map, callText]
  · exact begins_callText function _
  · have hidentifier := isIdentifier_builtin function
    apply unnegated_word (isNameChar_of_isIdentifier hidentifier)
    · cases function <;> decide
    · exact endsWord_sign (by decide) _
  · intro n hlength
    rw [phrase, phrases_eq_map]
    simp only [callText, bracketed, List.length_append, List.length_cons] at hlength
    apply call_takes function
    · intro item hitem
      have hshort := length_textAt_le [',', ' '] .disjunction hitem
      exact (hitems item hitem).takes_upTo (by omega)
    · intro item hitem
      have hread : item.IsRead := hitems item (List.mem_cons_of_mem first hitem)
      exact hread.begins .disjunction

theorem isRead_quantified (quantifier : Quantifier) {binder : String} {list body : Expr}
    (hbinder : isIdentifier binder = true) (hlist : list.IsRead) (hbody : body.IsRead) :
    (quantified quantifier binder list body).IsRead := by
  apply isRead_of_primary (quantifiedText quantifier binder (list.textAt .disjunction)
    (body.textAt .disjunction))
  · intro place
    rfl
  · exact begins_quantifiedText quantifier binder _ _
  · apply unnegated_word (isNameChar_quantifier quantifier)
    · cases quantifier <;> decide
    · exact endsWord_sign (by decide) _
  · intro n hlength
    simp only [quantifiedText, bracketed, List.length_append, List.length_cons] at hlength
    apply quantified_takes quantifier hbinder
    · exact hlist.takes_upTo (by omega)
    · exact hlist.begins .disjunction
    · exact hbody.takes_upTo (by omega)
    · exact hbody.begins .disjunction

theorem exists_cons_cons {α : Type} {items : List α} (hlength : 2 ≤ items.length) :
    ∃ first second others, items = first :: second :: others := by
  match items, hlength with
  | first :: second :: others, _ => exact ⟨first, second, others, rfl⟩

theorem arity_pos (function : Builtin) : 0 < function.arity := by
  cases function <;> decide

mutual

theorem isRead_of_isFormed : ∀ (expr : Expr) (scope : List String),
    expr.isFormed scope = true → expr.isSpelled = true → expr.IsRead
  | bool value, _, _, _ => isRead_bool value
  | .text value, _, hformed, _ => by
      rw [isFormed, Bool.not_eq_true', List.contains_eq_mem, decide_eq_false_iff_not] at hformed
      exact isRead_text hformed
  | path root attributes, _, _, hspelled => by
      rw [isSpelled, Bool.and_eq_true, Bool.not_eq_true', List.contains_eq_mem,
        decide_eq_false_iff_not] at hspelled
      exact isRead_path hspelled.1 hspelled.2 attributes
  | negation body, scope, hformed, hspelled =>
      isRead_negation (isRead_of_isFormed body scope hformed hspelled)
  | conjunction items, scope, hformed, hspelled => by
      rw [isFormed, Bool.and_eq_true, decide_eq_true_eq] at hformed
      have hitems := areRead_of_areFormed items scope hformed.2 hspelled
      obtain ⟨first, second, others, rfl⟩ := exists_cons_cons hformed.1
      exact isRead_conjunction hitems
  | disjunction items, scope, hformed, hspelled => by
      rw [isFormed, Bool.and_eq_true, decide_eq_true_eq] at hformed
      have hitems := areRead_of_areFormed items scope hformed.2 hspelled
      obtain ⟨first, second, others, rfl⟩ := exists_cons_cons hformed.1
      exact isRead_disjunction hitems
  | comparison isEqual left right, scope, hformed, hspelled => by
      rw [isFormed, Bool.and_eq_true] at hformed
      rw [isSpelled, Bool.and_eq_true] at hspelled
      exact isRead_comparison isEqual (isRead_of_isFormed left scope hformed.1 hspelled.1)
        (isRead_of_isFormed right scope hformed.2 hspelled.2)
  | call function arguments, scope, hformed, hspelled => by
      rw [isFormed, Bool.and_eq_true, beq_iff_eq] at hformed
      have hitems := areRead_of_areFormed arguments scope hformed.2 hspelled
      have hpos := arity_pos function
      cases arguments with
      | nil =>
          rw [← hformed.1] at hpos
          cases hpos
      | cons first others => exact isRead_call function hitems
  | quantified quantifier binder list body, scope, hformed, hspelled => by
      rw [isFormed, Bool.and_eq_true] at hformed
      rw [isSpelled, Bool.and_eq_true, Bool.and_eq_true] at hspelled
      exact isRead_quantified quantifier hspelled.1.1
        (isRead_of_isFormed list scope hformed.1 hspelled.1.2)
        (isRead_of_isFormed body (binder :: scope) hformed.2 hspelled.2)

theorem areRead_of_areFormed : ∀ (items : List Expr) (scope : List String),
    areFormed scope items = true → areSpelled items = true → ∀ item ∈ items, item.IsRead
  | [], _, _, _, _, hitem => by cases hitem
  | first :: items, scope, hformed, hspelled, item, hitem => by
      rw [areFormed, Bool.and_eq_true] at hformed
      rw [areSpelled, Bool.and_eq_true] at hspelled
      rcases List.mem_cons.mp hitem with heq | hitem
      · rw [heq]
        exact isRead_of_isFormed first scope hformed.1 hspelled.1
      · exact areRead_of_areFormed items scope hformed.2 hspelled.2 item hitem

end

theorem IsRead.read_text (hread : expr.IsRead) : Phrase.read expr.toText = .ok expr.phrase := by
  have htakes : Takes .disjunction (upTo ((expr.textAt .disjunction).length + 1))
      (expr.textAt .disjunction) expr.phrase := hread.takes_upTo (Nat.lt_succ_self _)
  have hexpression : expression (skipGap (expr.textAt .disjunction)) = .done expr.phrase [] := by
    have hskip := skipGap_append (hread.begins .disjunction) []
    have hdone := htakes [] (follows_nil .disjunction)
    rw [List.append_nil] at hskip hdone
    rw [hskip]
    exact hdone
  have hspaced : spaced expression (expr.textAt .disjunction) = .done expr.phrase [] :=
    spaced_done hexpression
  rw [Phrase.read, toText, String.toList_ofList, whole, hspaced]
  rfl

/-! ## Resolving -/

theorem ofName?_attribute (wanted : Attribute) : Attribute.ofName? wanted.name = some wanted := by
  cases wanted <;> rfl

theorem ofName?_builtin (function : Builtin) : Builtin.ofName? function.name = some function := by
  cases function <;> rfl

theorem resolveAttributes_names (attributes : List Attribute) :
    resolveAttributes (attributes.map Attribute.name) = .ok attributes := by
  induction attributes with
  | nil => rfl
  | cons wanted attributes ih =>
      unfold resolveAttributes at ih ⊢
      rw [List.map_cons, List.mapM_cons, ofName?_attribute, ih]
      rfl

theorem length_phrases (items : List Expr) : (phrases items).length = items.length := by
  rw [phrases_eq_map, List.length_map]

mutual

theorem resolve_phrase : ∀ (expr : Expr) (scope : List String),
    expr.isFormed scope = true → expr.phrase.resolve scope = .ok expr
  | bool _, _, _ => rfl
  | .text _, _, _ => rfl
  | path root attributes, scope, hformed => by
      rw [isFormed] at hformed
      rw [phrase, Phrase.resolve, if_pos hformed, resolveAttributes_names]
      rfl
  | negation body, scope, hformed => by
      rw [phrase, Phrase.resolve, resolve_phrase body scope hformed]
      rfl
  | conjunction items, scope, hformed => by
      rw [isFormed, Bool.and_eq_true] at hformed
      rw [phrase, Phrase.resolve, resolveAll_phrases items scope hformed.2]
      rfl
  | disjunction items, scope, hformed => by
      rw [isFormed, Bool.and_eq_true] at hformed
      rw [phrase, Phrase.resolve, resolveAll_phrases items scope hformed.2]
      rfl
  | comparison _ left right, scope, hformed => by
      rw [isFormed, Bool.and_eq_true] at hformed
      rw [phrase, Phrase.resolve, resolve_phrase left scope hformed.1,
        resolve_phrase right scope hformed.2]
      rfl
  | call function arguments, scope, hformed => by
      rw [isFormed, Bool.and_eq_true, beq_iff_eq] at hformed
      rw [phrase, Phrase.resolve, resolveFunction, ofName?_builtin, length_phrases,
        resolveAll_phrases arguments scope hformed.2]
      simp only [if_pos hformed.1]
      rfl
  | quantified _ binder list body, scope, hformed => by
      rw [isFormed, Bool.and_eq_true] at hformed
      rw [phrase, Phrase.resolve, resolve_phrase list scope hformed.1,
        resolve_phrase body (binder :: scope) hformed.2]
      rfl

theorem resolveAll_phrases : ∀ (items : List Expr) (scope : List String),
    areFormed scope items = true → Phrase.resolveAll (phrases items) scope = .ok items
  | [], _, _ => rfl
  | item :: items, scope, hformed => by
      rw [areFormed, Bool.and_eq_true] at hformed
      rw [phrases, Phrase.resolveAll, resolve_phrase item scope hformed.1,
        resolveAll_phrases items scope hformed.2]
      rfl

end

theorem read_of_isSpelled {expr : Expr} (hformed : expr.isFormed comparisonVariables = true)
    (hspelled : expr.isSpelled = true) : Expr.read expr.toText = .ok expr := by
  have hphrase := (isRead_of_isFormed expr comparisonVariables hformed hspelled).read_text
  rw [Expr.read, hphrase]
  exact resolve_phrase expr comparisonVariables hformed

/-- A well formed expression whose names can be written is read back from its
text, and whatever is read from any text is a well formed expression. -/
theorem read_toText_and_isFormed :
    (∀ expr : Expr, expr.isFormed comparisonVariables = true → expr.isSpelled = true →
        Expr.read expr.toText = .ok expr) ∧
      ∀ text expr, Expr.read text = .ok expr → expr.isFormed comparisonVariables = true := by
  constructor
  · exact fun expr hformed hspelled => read_of_isSpelled hformed hspelled
  · exact fun text expr hread => isFormed_of_read hread

/-- A quantifier over a variable that is spelled like an operator, with every
kind of operand that needs parentheses. -/
def everyAnd : Expr :=
  quantified .all "and" (path "a" [.input])
    (disjunction
      [conjunction [negation (path "and" [.negated]), conjunction [path "b" [], bool true]],
        disjunction [path "and" [], call .subset [path "and" [.modifier], path "in" []]],
        comparison true (comparison false (path "and" [.base]) (.text "or (")) (path "a" [])])

theorem read_toText_and_isFormed_everyAnd :
    let expr := quantified .any "in" (path "b" []) everyAnd
    expr.isFormed comparisonVariables = true ∧ expr.isSpelled = true ∧
      Expr.read expr.toText = .ok expr := by
  intro expr
  have hformed : expr.isFormed comparisonVariables = true := by decide
  have hspelled : expr.isSpelled = true := by decide
  have hread := read_toText_and_isFormed.1 expr hformed hspelled
  exact ⟨read_toText_and_isFormed.2 expr.toText expr hread, hspelled, hread⟩

example :
    everyAnd.toText = "all(and in a.input, not and.not and (b and true) or " ++
      "(and or subset(and.modifier, in)) or (and.base != 'or (') == a)" := by
  decide

end Expr

end ReqConflict
