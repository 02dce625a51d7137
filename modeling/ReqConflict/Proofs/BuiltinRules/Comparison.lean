import ReqConflict.Proofs.BuiltinRules.Kinds
import ReqConflict.Proofs.BuiltinRules.RuleSet
import ReqConflict.Proofs.Expr.Sets
import ReqConflict.Proofs.Expr.Truth

/-!
# What the built-in comparisons decide

Each comparison is evaluated on the values of its type.  The inclusion of lists
of entities and the inclusion of lists of conditions leave the answer to a
helper, and decide what the helper decides.
-/

namespace ReqConflict.BuiltinRules

open ReqConflict.Expr

variable {helpers : Helpers} {α : Type} {make : α → Value} {a b : Value} {as bs : List α} {p : Prop}

theorem tells_isEmpty {only : Expr} {environment : Environment}
    (honly : only.eval helpers environment = .ok a)
    (ha : ∀ purpose, a.elements purpose = .ok (as.map make)) :
    Tells ((call .empty [only]).eval helpers environment) (as = []) :=
  tells_call (evalEach_singleton honly) (Builtin.decides_empty ha)

theorem tells_equality_ofA_ofB (hequals : Decides (a.equals b) p) :
    Tells (equality.eval helpers (bindings a b)) p := by
  have hfirst : (ofA []).eval helpers (bindings a b) = .ok a := eval_variable rfl
  have hsecond : (ofB []).eval helpers (bindings a b) = .ok b := eval_variable rfl
  exact tells_equality hfirst hsecond hequals

theorem decides_equality (hequals : Decides (a.equals b) p) :
    Decides (equality.compare helpers a b) p := by
  apply decides_compare
  exact tells_equality_ofA_ofB hequals

theorem decides_setEquality (hmake : Value.Compares make)
    (ha : ∀ purpose, a.elements purpose = .ok (as.map make))
    (hb : ∀ purpose, b.elements purpose = .ok (bs.map make)) :
    Decides (setEquality.compare helpers a b) (∀ value, value ∈ as ↔ value ∈ bs) := by
  have harguments : evalEach helpers [ofA [], ofB []] (bindings a b) = .ok [a, b] :=
    evalEach_pair (eval_variable rfl) (eval_variable rfl)
  apply decides_compare
  exact tells_call harguments (Builtin.decides_setEqual hmake ha hb)

/-- The owner of an entity, or nothing, is compared like an entity. -/
theorem decides_equals_whole? (a b : Entity) :
    Decides (Value.equals ((a.whole?.map Value.entity).getD .nothing)
      ((b.whole?.map Value.entity).getD .nothing)) (a.whole? = b.whole?) := by
  cases a.whole? with
  | none =>
      cases b.whole? with
      | none => exact Decides.of_ok (by simp)
      | some owner => exact Decides.of_ok (by simp)
  | some owner =>
      cases b.whole? with
      | none => exact Decides.of_ok (by simp)
      | some owner' => exact Decides.of_ok (by simp)

/-- The part of the inclusion of entities that is not their equality. -/
theorem tells_sameKind (a b : Entity) :
    Tells ((conjunction
        [ comparison true (ofA [.base]) (ofB [.base]),
          comparison true (ofA [.entirety]) (ofB [.entirety]),
          disjunction [ofA [.isAll], call .subset [ofA [.modifier], ofB [.modifier]]] ]).eval
        helpers (bindings (.entity a) (.entity b)))
      (a.base = b.base ∧ a.whole? = b.whole? ∧
        (a.isAll = true ∨ ∀ modifier ∈ a.modifiers.toList, modifier ∈ b.modifiers.toList)) := by
  have hbase : Tells ((comparison true (ofA [.base]) (ofB [.base])).eval helpers
      (bindings (.entity a) (.entity b))) (a.base = b.base) :=
    tells_equality (eval_attribute rfl rfl) (eval_attribute rfl rfl) (Value.compares_text _ _)
  have hentirety : Tells ((comparison true (ofA [.entirety]) (ofB [.entirety])).eval helpers
      (bindings (.entity a) (.entity b))) (a.whole? = b.whole?) :=
    tells_equality (eval_attribute rfl rfl) (eval_attribute rfl rfl) (decides_equals_whole? a b)
  have hall : Tells ((ofA [.isAll]).eval helpers (bindings (.entity a) (.entity b)))
      (a.isAll = true) :=
    ⟨a.isAll, eval_attribute rfl rfl, Iff.rfl⟩
  have hmodifiers : Tells ((call .subset [ofA [.modifier], ofB [.modifier]]).eval helpers
      (bindings (.entity a) (.entity b)))
      (∀ modifier ∈ a.modifiers.toList, modifier ∈ b.modifiers.toList) := by
    apply tells_call (evalEach_pair (eval_attribute rfl rfl) (eval_attribute rfl rfl))
    exact Builtin.decides_subset Value.compares_text (fun _ => rfl) (fun _ => rfl)
  have hqualified : Tells ((disjunction
      [ofA [.isAll], call .subset [ofA [.modifier], ofB [.modifier]]]).eval helpers
      (bindings (.entity a) (.entity b)))
      (a.isAll = true ∨ ∀ modifier ∈ a.modifiers.toList, modifier ∈ b.modifiers.toList) := by
    apply tells_disjunction
    apply decides_evalAny_cons hall
    exact decides_evalAny_singleton hmodifiers
  apply tells_conjunction
  apply decides_evalAll_cons hbase
  apply decides_evalAll_cons hentirety
  exact decides_evalAll_singleton hqualified

theorem decides_entityInclusion (a b : Entity) :
    Decides (entityInclusion.compare helpers (.entity a) (.entity b)) (a.Covers b) := by
  have hequal : Tells (equality.eval helpers (bindings (.entity a) (.entity b))) (a = b) :=
    tells_equality_ofA_ofB (Value.compares_entity a b)
  apply decides_compare
  apply tells_disjunction
  apply decides_evalAny_cons hequal
  exact decides_evalAny_singleton (tells_sameKind a b)

theorem decides_entitySetInclusion {as bs : List Entity}
    (hhelper : Decides (helpers.entitySetInclude as bs) p) :
    Decides (entitySetInclusion.compare helpers (.entities as) (.entities bs)) p := by
  apply decides_compare
  apply tells_call (evalEach_pair (eval_variable rfl) (eval_variable rfl))
  exact hhelper

/-- Fewer texts include more. -/
theorem decides_stringSetInclusion (as bs : List String) :
    Decides (stringSetInclusion.compare helpers (.strings as) (.strings bs))
      (∀ text ∈ bs, text ∈ as) := by
  have harguments : evalEach helpers [ofB [], ofA []] (bindings (.strings as) (.strings bs)) =
      .ok [.strings bs, .strings as] :=
    evalEach_pair (eval_variable rfl) (eval_variable rfl)
  apply decides_compare
  apply tells_call harguments
  exact Builtin.decides_subset Value.compares_text (fun _ => rfl) (fun _ => rfl)

theorem decides_conditionSetInclusion {as bs : List Condition}
    (hhelper : Decides (helpers.conditionSetInclude as bs) p) :
    Decides (conditionSetInclusion.compare helpers (.conditions as) (.conditions bs))
      (as = [] ∨ p) := by
  have hempty : Tells ((call .empty [ofA []]).eval helpers
      (bindings (.conditions as) (.conditions bs))) (as = []) :=
    tells_isEmpty (eval_variable rfl) fun _ => rfl
  have hincluded : Tells ((call .conditionSetInclude [ofA [], ofB []]).eval helpers
      (bindings (.conditions as) (.conditions bs))) p := by
    apply tells_call (evalEach_pair (eval_variable rfl) (eval_variable rfl))
    exact hhelper
  apply decides_compare
  apply tells_disjunction
  apply decides_evalAny_cons hempty
  exact decides_evalAny_singleton hincluded

theorem decides_operationContradiction (f g : Operation) :
    Decides (operationContradiction.compare helpers (.operation f) (.operation g))
      (f.predicate = g.predicate ∧ f.negated ≠ g.negated) := by
  have hpredicate : Tells ((comparison true (ofA [.predicate]) (ofB [.predicate])).eval helpers
      (bindings (.operation f) (.operation g))) (f.predicate = g.predicate) :=
    tells_equality (eval_attribute rfl rfl) (eval_attribute rfl rfl) (Value.compares_text _ _)
  have hequals : Decides (Value.equals (.bool f.negated) (.bool g.negated))
      (f.negated = g.negated) :=
    Decides.of_ok (by simp)
  have hnegated : Tells ((comparison false (ofA [.negated]) (ofB [.negated])).eval helpers
      (bindings (.operation f) (.operation g))) (¬f.negated = g.negated) :=
    tells_difference (eval_attribute rfl rfl) (eval_attribute rfl rfl) hequals
  apply decides_compare
  apply tells_conjunction
  apply decides_evalAll_cons hpredicate
  exact decides_evalAll_singleton hnegated

theorem decides_stringSetContradiction (as bs : List String) :
    Decides (stringSetContradiction.compare helpers (.strings as) (.strings bs))
      (as ≠ [] ∧ bs ≠ [] ∧ ∀ text ∈ as, text ∉ bs) := by
  have hfirst : Tells ((negation (call .empty [ofA []])).eval helpers
      (bindings (.strings as) (.strings bs))) (¬as = []) := by
    apply tells_negation
    exact tells_isEmpty (eval_variable rfl) fun _ => rfl
  have hsecond : Tells ((negation (call .empty [ofB []])).eval helpers
      (bindings (.strings as) (.strings bs))) (¬bs = []) := by
    apply tells_negation
    exact tells_isEmpty (eval_variable rfl) fun _ => rfl
  have hdisjoint : Tells ((call .disjoint [ofA [], ofB []]).eval helpers
      (bindings (.strings as) (.strings bs))) (∀ text ∈ as, text ∉ bs) := by
    apply tells_call (evalEach_pair (eval_variable rfl) (eval_variable rfl))
    exact Builtin.decides_disjoint Value.compares_text (fun _ => rfl) (fun _ => rfl)
  apply decides_compare
  apply tells_conjunction
  apply decides_evalAll_cons hfirst
  apply decides_evalAll_cons hsecond
  exact decides_evalAll_singleton hdisjoint

end ReqConflict.BuiltinRules
