import ReqConflict.Expr.Printer
import ReqConflict.Expr.Scope
import ReqConflict.Proofs.Outcome
import ReqConflict.Proofs.Text.Taken

/-!
# What comes out of reading an expression

Every phrase that the grammar yields has at least two operands wherever it has
a list of them, and no text with a quote in it.  Resolving keeps both and adds
what it checks: variables are bound where they stand, and calls have as many
arguments as their functions take.
-/

namespace ReqConflict

open Text Text.Parser

namespace Phrase

mutual

/-- Every list of operands has at least two, and no text has a quote in it. -/
def isFormed : Phrase → Bool
  | bool _ | path .. => true
  | text value => !value.toList.contains '\''
  | negation body => isFormed body
  | conjunction items | disjunction items => 2 ≤ items.length && areFormed items
  | comparison _ left right => isFormed left && isFormed right
  | call _ arguments => areFormed arguments
  | quantified _ _ list body => isFormed list && isFormed body

def areFormed : List Phrase → Bool
  | [] => true
  | item :: items => isFormed item && areFormed items

end

theorem areFormed_iff {items : List Phrase} :
    areFormed items = true ↔ ∀ item ∈ items, item.isFormed = true := by
  induction items with
  | nil => simp [areFormed]
  | cons item items ih => rw [areFormed, Bool.and_eq_true, ih, List.forall_mem_cons]

/-! ## The grammar -/

variable {α : Type} {inner : Parser Phrase}

def Yields (part : Parser Phrase) : Prop :=
  Ensures part fun _ phrase => phrase.isFormed = true

theorem ensures_gap : Ensures gap fun _ _ => True := by
  apply (ensures_span isGap).bind
  intro _ _ _
  exact ensures_pure trivial

theorem Ensures.spaced {part : Parser α} {good : α → Prop}
    (hpart : Ensures part fun _ value => good value) :
    Ensures (spaced part) fun _ value => good value := by
  apply ensures_gap.bind
  intro _ _ _
  apply hpart.bind
  intro _ value hvalue
  apply ensures_gap.bind
  intro _ _ _
  exact ensures_pure hvalue

theorem ensures_keyword (text : String) : Ensures (keyword text) fun _ _ => True := by
  apply (ensures_word text).bind
  intro _ _ _
  exact (ensures_missing _).mono fun _ _ _ => trivial

theorem ensures_sign (c : Char) : Ensures (char c) fun _ _ => True :=
  (ensures_char c).mono fun _ _ _ => trivial

theorem ensures_name : Ensures name fun _ _ => True := by
  have hpart : ∀ kind accepts, Ensures (choice [span1 kind accepts, underscore])
      fun _ _ => True := by
    intro kind accepts
    apply ensures_choice_pair
    · exact (ensures_span1 kind accepts).mono fun _ _ _ => trivial
    · exact (ensures_word "_").bind fun _ _ _ => ensures_pure trivial
  apply (hpart _ _).bind
  intro _ _ _
  have hothers : Ensures (many (choice [span1 "AlphaNumeric" Char.isAlphanum, underscore]))
      fun _ _ => True :=
    ensures_many (hpart _ _) trivial fun _ _ _ _ _ _ => trivial
  apply hothers.bind
  intro _ _ _
  exact ensures_pure trivial

theorem ensures_closing : Ensures closing fun _ _ => True :=
  ((Ensures.spaced (ensures_sign ')')).named _).commit

theorem ensures_quantifier : Ensures Phrase.quantifier fun _ _ => True := by
  apply ensures_choice_pair
  · exact (ensures_keyword "any").bind fun _ _ _ => ensures_pure trivial
  · exact (ensures_keyword "all").bind fun _ _ _ => ensures_pure trivial

theorem yields_parenthesized (hinner : Yields inner) : Yields (parenthesized inner) := by
  apply (ensures_sign '(').bind
  intro _ _ _
  apply (Ensures.spaced hinner).bind
  intro _ phrase hphrase
  apply ((ensures_sign ')').named _).commit.bind
  intro _ _ _
  exact ensures_pure hphrase

theorem yields_quantification (hinner : Yields inner) : Yields (quantification inner) := by
  apply ensures_quantifier.bind
  intro _ quantifier _
  apply (Ensures.spaced (ensures_sign '(')).bind
  intro _ _ _
  apply ensures_name.bind
  intro _ binder _
  apply (Ensures.spaced (ensures_keyword "in")).bind
  intro _ _ _
  apply hinner.commit.bind
  intro _ list hlist
  apply ((Ensures.spaced (ensures_sign ',')).named _).commit.bind
  intro _ _ _
  apply hinner.commit.bind
  intro _ body hbody
  apply ensures_closing.bind
  intro _ _ _
  apply ensures_pure
  rw [isFormed, hlist, hbody]
  rfl

theorem yields_callOf (hinner : Yields inner) : Yields (callOf inner) := by
  have hall : Ensures (separated (Phrase.spaced (char ',')) inner)
      fun _ arguments => areFormed arguments = true := by
    apply Ensures.separated
    · refine Ensures.separated1 hinner (Ensures.spaced (ensures_sign ',')) rfl ?_ ?_
      · intro _ item _ items hitem hitems
        rw [areFormed, hitem, hitems]
        rfl
      · intro _ _ item _ items _ hitem hitems
        rw [areFormed, hitem, hitems]
        rfl
    · rfl
  apply ensures_name.bind
  intro _ function _
  apply ensures_gap.bind
  intro _ _ _
  apply (ensures_sign '(').bind
  intro _ _ _
  apply hall.bind
  intro _ arguments harguments
  apply ensures_closing.bind
  intro _ _ _
  exact ensures_pure harguments

theorem yields_quotedText : Yields quotedText := by
  apply (ensures_sign '\'').bind
  intro _ _ _
  apply (ensures_span _).bind
  intro _ value hvalue
  apply ((ensures_sign '\'').named _).commit.bind
  intro _ _ _
  apply ensures_pure
  obtain ⟨rfl, hplain⟩ := hvalue
  rw [isFormed, String.toList_ofList, Bool.not_eq_true', List.contains_eq_mem,
    decide_eq_false_iff_not]
  intro hquote
  have hne := hplain '\'' hquote
  cases hne

theorem yields_literal : Yields literal := by
  apply ensures_choice
  intro branch hbranch
  simp only [List.mem_cons, List.not_mem_nil, or_false] at hbranch
  rcases hbranch with rfl | rfl | rfl
  · exact (ensures_keyword "true").bind fun _ _ _ => ensures_pure rfl
  · exact (ensures_keyword "false").bind fun _ _ _ => ensures_pure rfl
  · exact yields_quotedText

theorem yields_pathPhrase : Yields pathPhrase := by
  have hnames : Ensures (separated1 (char '.') name) fun _ _ => True :=
    Ensures.separated1 ensures_name (ensures_sign '.') trivial (fun _ _ _ _ _ _ => trivial)
      fun _ _ _ _ _ _ _ _ => trivial
  apply hnames.bind
  intro _ names _
  cases names with
  | nil => exact ensures_reject _
  | cons root attributes => exact ensures_pure rfl

theorem yields_primary (hinner : Yields inner) : Yields (primary inner) := by
  apply Ensures.spaced
  apply ensures_choice
  intro branch hbranch
  simp only [List.mem_cons, List.not_mem_nil, or_false] at hbranch
  rcases hbranch with rfl | rfl | rfl | rfl | rfl
  · exact yields_parenthesized hinner
  · exact yields_quantification hinner
  · exact yields_callOf hinner
  · exact yields_literal
  · exact yields_pathPhrase

theorem yields_comparisonOf (hinner : Yields inner) : Yields (comparisonOf inner) := by
  have hsign : Ensures comparisonSign fun _ _ => True := by
    apply Ensures.spaced
    apply ensures_choice_pair
    · exact (ensures_word "==").bind fun _ _ _ => ensures_pure trivial
    · exact (ensures_word "!=").bind fun _ _ _ => ensures_pure trivial
  have hside : Ensures (comparisonSign >>= fun isEqual =>
      commit (named "right-hand side of comparison" inner) >>= fun right =>
        pure (isEqual, right)) fun _ side => side.2.isFormed = true := by
    apply hsign.bind
    intro _ isEqual _
    apply (hinner.named _).commit.bind
    intro _ right hright
    exact ensures_pure hright
  apply hinner.bind
  intro _ left hleft
  apply hside.optional.bind
  rintro _ side (⟨rfl, _⟩ | ⟨⟨isEqual, right⟩, rfl, hright⟩)
  · exact ensures_pure hleft
  · apply ensures_pure
    rw [isFormed, hleft, hright]
    rfl

theorem yields_negationUpTo (hinner : Yields inner) (bound : Nat) :
    Yields (negationUpTo inner bound) := by
  induction bound with
  | zero => exact hinner
  | succ bound ih =>
      apply ensures_choice_pair
      · apply (Ensures.spaced (ensures_keyword "not")).bind
        intro _ _ _
        apply ih.commit.bind
        intro _ body hbody
        exact ensures_pure hbody
      · exact hinner

/-- A chain with an operator in it has at least two operands. -/
theorem yields_chain {join : List Phrase → Phrase} (operator : String) (hinner : Yields inner)
    (hjoin : ∀ items, (join items).isFormed = (2 ≤ items.length && areFormed items)) :
    Yields (chain operator join inner) := by
  have htail : Ensures (many (Phrase.spaced (keyword operator) >>= fun _ => commit inner))
      fun _ items => areFormed items = true := by
    have hstep : Ensures (Phrase.spaced (keyword operator) >>= fun _ => commit inner)
        fun _ item => item.isFormed = true := by
      apply (Ensures.spaced (ensures_keyword operator)).bind
      intro _ _ _
      exact hinner.commit
    apply ensures_many hstep rfl
    intro _ item _ items hitem hitems
    rw [areFormed, hitem, hitems]
    rfl
  apply hinner.bind
  intro _ head hhead
  apply htail.bind
  intro _ tail htail
  apply ensures_pure
  cases tail with
  | nil => exact hhead
  | cons second others =>
      rw [joined, hjoin, areFormed, hhead, htail]
      · simp
      · exact List.cons_ne_nil second others

theorem yields_upTo (bound : Nat) : Yields (upTo bound) := by
  induction bound with
  | zero => exact ensures_reject _
  | succ bound ih =>
      -- only parentheses lead back to an expression, and those have one level less to nest in
      apply yields_chain "or" _ fun _ => by rw [isFormed]
      apply yields_chain "and" _ fun _ => by rw [isFormed]
      exact yields_negationUpTo (yields_comparisonOf (yields_primary ih)) _

theorem isFormed_of_read {text : String} {phrase : Phrase}
    (hread : Phrase.read text = .ok phrase) : phrase.isFormed = true := by
  have hexpression : Yields expression := fun input => yields_upTo (input.length + 1) input
  rw [Phrase.read] at hread
  cases hreply : whole (Phrase.spaced expression) text.toList with
  | fail committed trace =>
      rw [hreply] at hread
      cases hread
  | done value rest =>
      rw [hreply] at hread
      cases hread
      exact (Ensures.spaced hexpression).of_whole hreply

end Phrase

/-! ## Names -/

namespace Expr

variable {scope : List String}

theorem areFormed_iff {items : List Expr} :
    areFormed scope items = true ↔ ∀ item ∈ items, item.isFormed scope = true := by
  induction items with
  | nil => simp [areFormed]
  | cons item items ih => rw [areFormed, Bool.and_eq_true, ih, List.forall_mem_cons]

mutual

/-- Well-formedness depends on which names are bound, and not on their order. -/
theorem isFormed_congr : ∀ (expr : Expr) {scope other : List String},
    (∀ name, scope.contains name = other.contains name) →
      expr.isFormed scope = expr.isFormed other
  | .bool _, _, _, _ | .text _, _, _, _ => rfl
  | .path root _, _, _, hsame => hsame root
  | .negation body, _, _, hsame => by
      rw [isFormed, isFormed, isFormed_congr body hsame]
  | .conjunction items, _, _, hsame | .disjunction items, _, _, hsame => by
      rw [isFormed, isFormed, areFormed_congr items hsame]
  | .comparison _ left right, _, _, hsame => by
      rw [isFormed, isFormed, isFormed_congr left hsame, isFormed_congr right hsame]
  | .call _ arguments, _, _, hsame => by
      rw [isFormed, isFormed, areFormed_congr arguments hsame]
  | .quantified _ binder list body, scope, other, hsame => by
      have hbody : ∀ name, (binder :: scope).contains name = (binder :: other).contains name := by
        intro name
        rw [List.contains_cons, List.contains_cons, hsame]
      rw [isFormed, isFormed, isFormed_congr list hsame, isFormed_congr body hbody]

theorem areFormed_congr : ∀ (items : List Expr) {scope other : List String},
    (∀ name, scope.contains name = other.contains name) →
      areFormed scope items = areFormed other items
  | [], _, _, _ => rfl
  | item :: items, _, _, hsame => by
      rw [areFormed, areFormed, isFormed_congr item hsame, areFormed_congr items hsame]

end

theorem length_of_resolveAll {items : List Phrase} {exprs : List Expr}
    (hitems : Phrase.resolveAll items scope = .ok exprs) : exprs.length = items.length := by
  induction items generalizing exprs with
  | nil =>
      cases hitems
      rfl
  | cons item items ih =>
      obtain ⟨expr, _, hitems⟩ := bind_eq_ok_iff.mp hitems
      obtain ⟨others, hothers, heq⟩ := bind_eq_ok_iff.mp hitems
      cases heq
      rw [List.length_cons, List.length_cons, ih hothers]

theorem arity_of_resolveFunction {name : String} {count : Nat} {function : Builtin}
    (hfunction : Phrase.resolveFunction name count = .ok function) : count = function.arity := by
  rw [Phrase.resolveFunction] at hfunction
  split at hfunction
  · cases hfunction
  · split at hfunction
    · rename_i hcount
      cases hfunction
      exact hcount
    · cases hfunction

mutual

/-- Resolving keeps the form of a phrase, and checks variables and arities. -/
theorem isFormed_of_resolve : ∀ (phrase : Phrase) (scope : List String) {expr : Expr},
    phrase.isFormed = true → phrase.resolve scope = .ok expr → expr.isFormed scope = true
  | .bool _, _, _, _, hexpr => by
      cases hexpr
      rfl
  | .text _, _, _, hformed, hexpr => by
      cases hexpr
      exact hformed
  | .path root names, scope, _, _, hexpr => by
      rw [Phrase.resolve] at hexpr
      split at hexpr
      · rename_i hbound
        obtain ⟨_, _, rfl⟩ := map_eq_ok_iff.mp hexpr
        exact hbound
      · cases hexpr
  | .negation body, scope, _, hformed, hexpr => by
      obtain ⟨expr, hbody, heq⟩ := bind_eq_ok_iff.mp hexpr
      cases heq
      rw [isFormed]
      exact isFormed_of_resolve body scope hformed hbody
  | .conjunction items, scope, _, hformed, hexpr => by
      obtain ⟨exprs, hitems, heq⟩ := bind_eq_ok_iff.mp hexpr
      cases heq
      rw [Phrase.isFormed, Bool.and_eq_true] at hformed
      rw [isFormed, length_of_resolveAll hitems, hformed.1,
        areFormed_of_resolveAll items scope hformed.2 hitems]
      rfl
  | .disjunction items, scope, _, hformed, hexpr => by
      obtain ⟨exprs, hitems, heq⟩ := bind_eq_ok_iff.mp hexpr
      cases heq
      rw [Phrase.isFormed, Bool.and_eq_true] at hformed
      rw [isFormed, length_of_resolveAll hitems, hformed.1,
        areFormed_of_resolveAll items scope hformed.2 hitems]
      rfl
  | .comparison _ left right, scope, _, hformed, hexpr => by
      obtain ⟨leftExpr, hleft, hexpr⟩ := bind_eq_ok_iff.mp hexpr
      obtain ⟨rightExpr, hright, heq⟩ := bind_eq_ok_iff.mp hexpr
      cases heq
      rw [Phrase.isFormed, Bool.and_eq_true] at hformed
      rw [isFormed, isFormed_of_resolve left scope hformed.1 hleft,
        isFormed_of_resolve right scope hformed.2 hright]
      rfl
  | .call name arguments, scope, _, hformed, hexpr => by
      obtain ⟨function, hfunction, hexpr⟩ := bind_eq_ok_iff.mp hexpr
      obtain ⟨exprs, hitems, heq⟩ := bind_eq_ok_iff.mp hexpr
      cases heq
      rw [isFormed, length_of_resolveAll hitems, arity_of_resolveFunction hfunction,
        areFormed_of_resolveAll arguments scope hformed hitems]
      simp
  | .quantified _ binder list body, scope, _, hformed, hexpr => by
      obtain ⟨listExpr, hlist, hexpr⟩ := bind_eq_ok_iff.mp hexpr
      obtain ⟨bodyExpr, hbody, heq⟩ := bind_eq_ok_iff.mp hexpr
      cases heq
      rw [Phrase.isFormed, Bool.and_eq_true] at hformed
      rw [isFormed, isFormed_of_resolve list scope hformed.1 hlist,
        isFormed_of_resolve body (binder :: scope) hformed.2 hbody]
      rfl

theorem areFormed_of_resolveAll : ∀ (items : List Phrase) (scope : List String)
    {exprs : List Expr}, Phrase.areFormed items = true →
      Phrase.resolveAll items scope = .ok exprs → areFormed scope exprs = true
  | [], _, _, _, hexprs => by
      cases hexprs
      rfl
  | item :: items, scope, _, hformed, hexprs => by
      obtain ⟨expr, hitem, hexprs⟩ := bind_eq_ok_iff.mp hexprs
      obtain ⟨others, hothers, heq⟩ := bind_eq_ok_iff.mp hexprs
      cases heq
      rw [Phrase.areFormed, Bool.and_eq_true] at hformed
      rw [areFormed, isFormed_of_resolve item scope hformed.1 hitem,
        areFormed_of_resolveAll items scope hformed.2 hothers]
      rfl

end

theorem isFormed_of_read {text : String} {expr : Expr} (hread : Expr.read text = .ok expr) :
    expr.isFormed comparisonVariables = true := by
  obtain ⟨phrase, hphrase, hexpr⟩ := bind_eq_ok_iff.mp hread
  exact isFormed_of_resolve phrase comparisonVariables (Phrase.isFormed_of_read hphrase) hexpr

end Expr

end ReqConflict
