import ReqConflict.Proofs.BuiltinRules.Comparison
import ReqConflict.Proofs.Rule.Truth

/-!
# What the built-in rules decide

The rules are taken in the order of the document, so that a called rule is
known already.  The helpers are taken along: a rule that asks for the inclusion
of lists of conditions runs the rule for single conditions, and that one asks
for the inclusion of lists of entities, which runs a comparison only.
-/

namespace ReqConflict

namespace Subject

/-- A field that a subject has is read as its value. -/
theorem field_of_field? {x : Subject} {name : String} {value : Value}
    (hvalue : x.field? name = some value) : x.field name = .ok value := by
  rw [field, hvalue]

theorem conditions_event (x : Requirement) :
    (requirement x).conditions "event" = .ok x.events := by
  have hfield : (requirement x).field "event" = .ok (.conditions x.events) :=
    field_of_field? rfl
  rw [conditions, hfield]
  rfl

end Subject

namespace BuiltinRules

open Subject Rule

variable {helpers : Helpers} {x y : Subject} {field : String} {as bs : List Entity} {p : Prop}

/-- A field is related to that field of another subject by the comparison for
its type. -/
theorem decides_relate {relation : Relation} {type : String} {a b : Value} {comparison : Expr}
    (hfirst : x.field? field = some a) (hsecond : y.field? field = some b)
    (htype : registry.check field relation field = .ok type)
    (hcomparison : registry.comparison relation type = .ok comparison)
    (hanswer : Decides (comparison.compare helpers a b) p) :
    Decides (registry.relate helpers x field relation y field) p := by
  have hx : x.field field = .ok a := field_of_field? hfirst
  have hy : y.field field = .ok b := field_of_field? hsecond
  exact Registry.decides_relate hx hy htype hcomparison hanswer

theorem relates_equal_agent (helpers : Helpers) (x y : Subject) :
    Decides (registry.relate helpers x "agent" .equals y "agent")
      (x.body.agent = y.body.agent) := by
  apply decides_relate rfl rfl rfl rfl
  exact decides_equality (Value.compares_entity _ _)

theorem relates_equal_operation (helpers : Helpers) (x y : Subject) :
    Decides (registry.relate helpers x "operation" .equals y "operation")
      (x.body.operation = y.body.operation) := by
  apply decides_relate rfl rfl rfl rfl
  apply decides_equality
  exact Decides.of_ok (by simp)

/-- Lists of entities are equal if they have the same members. -/
theorem relates_equal_entities (helpers : Helpers) (hfirst : x.field? field = some (.entities as))
    (hsecond : y.field? field = some (.entities bs))
    (htype : registry.check field .equals field = .ok "entity-set") :
    Decides (registry.relate helpers x field .equals y field)
      (∀ entity, entity ∈ as ↔ entity ∈ bs) := by
  apply decides_relate hfirst hsecond htype rfl
  exact decides_setEquality Value.compares_entity (fun _ => rfl) (fun _ => rfl)

theorem relates_equal_event (helpers : Helpers) (x y : Requirement) :
    Decides (registry.relate helpers (.requirement x) "event" .equals (.requirement y) "event")
      (∀ event, event ∈ x.events ↔ event ∈ y.events) := by
  apply decides_relate rfl rfl rfl rfl
  exact decides_setEquality Value.compares_condition (fun _ => rfl) (fun _ => rfl)

theorem relates_contradict_operation (helpers : Helpers) (x y : Subject) :
    Decides (registry.relate helpers x "operation" .contradicts y "operation")
      (x.body.operation.predicate = y.body.operation.predicate ∧
        x.body.operation.negated ≠ y.body.operation.negated) := by
  apply decides_relate rfl rfl rfl rfl
  exact decides_operationContradiction _ _

theorem relates_contradict_restriction (helpers : Helpers) (x y : Requirement) :
    Decides (registry.relate helpers (.requirement x) "restriction" .contradicts
      (.requirement y) "restriction") (x.RestrictionsContradict y) := by
  apply decides_relate rfl rfl rfl rfl
  exact decides_stringSetContradiction _ _

theorem relates_include_restriction (helpers : Helpers) (x y : Subject) :
    Decides (registry.relate helpers x "restriction" .includes y "restriction")
      (∀ text ∈ y.body.restriction, text ∈ x.body.restriction) := by
  apply decides_relate rfl rfl rfl rfl
  exact decides_stringSetInclusion _ _

theorem relates_include_agent (helpers : Helpers) (x y : Subject) :
    Decides (registry.relate helpers x "agent" .includes y "agent")
      (x.body.agent.Covers y.body.agent) := by
  apply decides_relate rfl rfl rfl rfl
  exact decides_entityInclusion _ _

/-- The helper for lists of entities does what it is for. -/
def ServesEntities (helpers : Helpers) : Prop :=
  ∀ as bs, Decides (helpers.entitySetInclude as bs) (Entity.CoverAll as bs)

def ServesConditions (helpers : Helpers) : Prop :=
  ∀ as bs, Decides (helpers.conditionSetInclude as bs) (∃ c ∈ as, ∃ d ∈ bs, c.Covers d)

theorem relates_include_entities (hentities : ServesEntities helpers)
    (hfirst : x.field? field = some (.entities as)) (hsecond : y.field? field = some (.entities bs))
    (htype : registry.check field .includes field = .ok "entity-set") :
    Decides (registry.relate helpers x field .includes y field) (Entity.CoverAll as bs) := by
  apply decides_relate hfirst hsecond htype rfl
  exact decides_entitySetInclusion (hentities as bs)

theorem relates_include_event (hconditions : ServesConditions helpers) (x y : Requirement) :
    Decides (registry.relate helpers (.requirement x) "event" .includes (.requirement y) "event")
      (Condition.EventsCover x.events y.events) := by
  apply decides_relate rfl rfl rfl rfl
  exact decides_conditionSetInclusion (hconditions _ _)

theorem decides_entityIncludes (helpers : Helpers) (a b : Entity) :
    Decides (registry.entityIncludes helpers a b) (a.Covers b) :=
  decides_entityInclusion a b

/-- The registry serves lists of entities whatever the helpers of its
comparison do. -/
theorem decides_entitySetInclude (helpers : Helpers) (as bs : List Entity) :
    Decides (registry.entitySetInclude helpers as bs) (Entity.CoverAll as bs) := by
  apply Quantifier.decides_all
  intro wanted
  apply Quantifier.decides_any
  intro candidate
  exact decides_entityIncludes helpers candidate wanted

/-! ## Rules for conditions -/

theorem decides_forth {relation : Relation}
    (hanswer : Decides (registry.relate helpers x field relation y field) p) :
    Decides ((forth relation field).eval registry helpers x y) p :=
  decides_relation hanswer

theorem decides_back {relation : Relation}
    (hanswer : Decides (registry.relate helpers y field relation x field) p) :
    Decides ((back relation field).eval registry helpers x y) p :=
  decides_relation hanswer

theorem decides_conditionInclude (hentities : ServesEntities helpers) (x y : Subject) :
    Decides (conditionInclude.eval registry helpers x y) (y.body.Covers x.body) := by
  have hagent : Decides ((back .includes "agent").eval registry helpers x y)
      (y.body.agent.Covers x.body.agent) :=
    decides_back (relates_include_agent helpers y x)
  have hoperation : Decides ((forth .equals "operation").eval registry helpers x y)
      (y.body.operation = x.body.operation) :=
    (decides_forth (relates_equal_operation helpers x y)).congr eq_comm
  have hinput : Decides ((back .includes "input").eval registry helpers x y)
      (Entity.CoverAll y.body.input x.body.input) :=
    decides_back (relates_include_entities hentities rfl rfl rfl)
  have houtput : Decides ((back .includes "output").eval registry helpers x y)
      (Entity.CoverAll y.body.output x.body.output) :=
    decides_back (relates_include_entities hentities rfl rfl rfl)
  apply decides_conjunction
  apply decides_evalAll_cons hagent
  apply decides_evalAll_cons hoperation
  apply decides_evalAll_cons hinput
  exact decides_evalAll_singleton houtput

theorem decides_inputOverlap (hentities : ServesEntities helpers) (x y : Subject) :
    Decides (inputOverlap.eval registry helpers x y) (x.body.Overlaps y.body) := by
  have hforth : Decides ((forth .includes "input").eval registry helpers x y)
      (Entity.CoverAll x.body.input y.body.input) :=
    decides_forth (relates_include_entities hentities rfl rfl rfl)
  have hback : Decides ((back .includes "input").eval registry helpers x y)
      (Entity.CoverAll y.body.input x.body.input) :=
    decides_back (relates_include_entities hentities rfl rfl rfl)
  apply decides_disjunction
  apply decides_evalAny_cons hforth
  exact decides_evalAny_singleton hback

/-- The overlap of the inputs where another rule calls it. -/
theorem decides_named_inputOverlap (hentities : ServesEntities helpers) (x y : Subject) :
    Decides ((named 1 "input overlap" inputOverlap).eval registry helpers x y)
      (x.body.Overlaps y.body) :=
  decides_named 1 "input overlap" (decides_inputOverlap hentities x y)

theorem decides_conditionContradict (hentities : ServesEntities helpers) (x y : Subject) :
    Decides (conditionContradict.eval registry helpers x y) (x.body.Contradicts y.body) := by
  have hagent : Decides ((forth .equals "agent").eval registry helpers x y)
      (x.body.agent = y.body.agent) :=
    decides_forth (relates_equal_agent helpers x y)
  have hoperation : Decides ((forth .contradicts "operation").eval registry helpers x y)
      (x.body.operation.predicate = y.body.operation.predicate ∧
        x.body.operation.negated ≠ y.body.operation.negated) :=
    decides_forth (relates_contradict_operation helpers x y)
  have hrule : Decides (conditionContradict.eval registry helpers x y)
      (x.body.agent = y.body.agent ∧
        (x.body.operation.predicate = y.body.operation.predicate ∧
          x.body.operation.negated ≠ y.body.operation.negated) ∧
        x.body.Overlaps y.body) := by
    apply decides_conjunction
    apply decides_evalAll_cons hagent
    apply decides_evalAll_cons hoperation
    exact decides_evalAll_singleton (decides_named_inputOverlap hentities x y)
  exact hrule.congr (by rw [Condition.Contradicts, and_assoc])

theorem decides_sameAction (hentities : ServesEntities helpers) (x y : Subject) :
    Decides (sameAction.eval registry helpers x y)
      (x.body.agent = y.body.agent ∧ x.body.operation = y.body.operation ∧
        x.body.Overlaps y.body) := by
  have hagent : Decides ((forth .equals "agent").eval registry helpers x y)
      (x.body.agent = y.body.agent) :=
    decides_forth (relates_equal_agent helpers x y)
  have hoperation : Decides ((forth .equals "operation").eval registry helpers x y)
      (x.body.operation = y.body.operation) :=
    decides_forth (relates_equal_operation helpers x y)
  apply decides_conjunction
  apply decides_evalAll_cons hagent
  apply decides_evalAll_cons hoperation
  exact decides_evalAll_singleton (decides_named_inputOverlap hentities x y)

theorem decides_actionTriggersEvent (hentities : ServesEntities helpers) (x y : Subject) :
    Decides (actionTriggersEvent.eval registry helpers x y)
      (y.body.agent.Covers x.body.agent ∧ x.body.operation = y.body.operation ∧
        Entity.CoverAll y.body.input x.body.input) := by
  have hagent : Decides ((back .includes "agent").eval registry helpers x y)
      (y.body.agent.Covers x.body.agent) :=
    decides_back (relates_include_agent helpers y x)
  have hoperation : Decides ((forth .equals "operation").eval registry helpers x y)
      (x.body.operation = y.body.operation) :=
    decides_forth (relates_equal_operation helpers x y)
  have hinput : Decides ((back .includes "input").eval registry helpers x y)
      (Entity.CoverAll y.body.input x.body.input) :=
    decides_back (relates_include_entities hentities rfl rfl rfl)
  apply decides_conjunction
  apply decides_evalAll_cons hagent
  apply decides_evalAll_cons hoperation
  exact decides_evalAll_singleton hinput

/-! ## Rules for requirements -/

theorem decides_eventOverlap (hconditions : ServesConditions helpers) (x y : Requirement) :
    Decides (eventOverlap.eval registry helpers (.requirement x) (.requirement y))
      (x.EventsOverlap y) := by
  have hforth : Decides
      ((forth .includes "event").eval registry helpers (.requirement x) (.requirement y))
      (Condition.EventsCover x.events y.events) :=
    decides_forth (relates_include_event hconditions x y)
  have hback : Decides
      ((back .includes "event").eval registry helpers (.requirement x) (.requirement y))
      (Condition.EventsCover y.events x.events) :=
    decides_back (relates_include_event hconditions y x)
  apply decides_disjunction
  apply decides_evalAny_cons hforth
  exact decides_evalAny_singleton hback

theorem decides_named_eventOverlap (hconditions : ServesConditions helpers) (x y : Requirement) :
    Decides ((named 3 "event overlap" eventOverlap).eval registry helpers (.requirement x)
      (.requirement y)) (x.EventsOverlap y) :=
  decides_named 3 "event overlap" (decides_eventOverlap hconditions x y)

theorem decides_forth_contradict_restriction (helpers : Helpers) (x y : Requirement) :
    Decides ((forth .contradicts "restriction").eval registry helpers (.requirement x)
      (.requirement y)) (x.RestrictionsContradict y) :=
  decides_forth (relates_contradict_restriction helpers x y)

/-- The first three items are those of a contradiction of conditions. -/
theorem decides_operationInconsistency (hentities : ServesEntities helpers)
    (hconditions : ServesConditions helpers) (x y : Requirement) :
    Decides (operationInconsistency.eval registry helpers (.requirement x) (.requirement y))
      (x.OperationInconsistent y) := by
  have hagent : Decides
      ((forth .equals "agent").eval registry helpers (.requirement x) (.requirement y))
      (x.agent = y.agent) :=
    decides_forth (relates_equal_agent helpers _ _)
  have hoperation : Decides
      ((forth .contradicts "operation").eval registry helpers (.requirement x) (.requirement y))
      (x.operation.predicate = y.operation.predicate ∧
        x.operation.negated ≠ y.operation.negated) :=
    decides_forth (relates_contradict_operation helpers _ _)
  have hrestriction : Decides
      ((negation (forth .contradicts "restriction")).eval registry helpers (.requirement x)
        (.requirement y)) (¬x.RestrictionsContradict y) :=
    decides_negation (decides_forth_contradict_restriction helpers x y)
  have hrule : Decides
      (operationInconsistency.eval registry helpers (.requirement x) (.requirement y))
      (x.agent = y.agent ∧
        (x.operation.predicate = y.operation.predicate ∧
          x.operation.negated ≠ y.operation.negated) ∧
        x.toCondition.Overlaps y.toCondition ∧ ¬x.RestrictionsContradict y ∧
        x.EventsOverlap y) := by
    apply decides_conjunction
    apply decides_evalAll_cons hagent
    apply decides_evalAll_cons hoperation
    apply decides_evalAll_cons (decides_named_inputOverlap hentities _ _)
    apply decides_evalAll_cons hrestriction
    exact decides_evalAll_singleton (decides_named_eventOverlap hconditions x y)
  apply hrule.congr
  simp only [Requirement.OperationInconsistent, Condition.Contradicts, and_assoc]

theorem decides_restrictionInconsistency (hentities : ServesEntities helpers)
    (hconditions : ServesConditions helpers) (x y : Requirement) :
    Decides (restrictionInconsistency.eval registry helpers (.requirement x) (.requirement y))
      (x.RestrictionInconsistent y) := by
  have haction : Decides
      ((named 4 "same action" sameAction).eval registry helpers (.requirement x) (.requirement y))
      (x.agent = y.agent ∧ x.operation = y.operation ∧
        x.toCondition.Overlaps y.toCondition) :=
    decides_named 4 "same action" (decides_sameAction hentities _ _)
  apply decides_conjunction
  apply decides_evalAll_cons haction
  apply decides_evalAll_cons (decides_named_eventOverlap hconditions x y)
  exact decides_evalAll_singleton (decides_forth_contradict_restriction helpers x y)

theorem decides_eventInconsistency (hentities : ServesEntities helpers) (x y : Requirement) :
    Decides (eventInconsistency.eval registry helpers (.requirement x) (.requirement y))
      (x.EventInconsistent y) := by
  have hcalled : ∀ c d : Subject, Decides
      ((named 2 RuleName.conditionContradict conditionContradict).eval registry helpers c d)
      (c.body.Contradicts d.body) := by
    intro c d
    exact decides_named 2 RuleName.conditionContradict (decides_conditionContradict hentities c d)
  have hfirst := decides_loop_first (conditions_event x) fun c =>
    hcalled (.condition c) (.requirement y)
  have hsecond := decides_loop_second (conditions_event y) fun c =>
    hcalled (.requirement x) (.condition c)
  apply decides_disjunction
  apply decides_evalAny_cons hfirst
  exact decides_evalAny_singleton hsecond

theorem decides_operationInclusion (hentities : ServesEntities helpers) (x y : Requirement) :
    Decides (operationInclusion.eval registry helpers (.requirement x) (.requirement y))
      (x.OperationIncludes y) := by
  have hoperation : Decides
      ((forth .equals "operation").eval registry helpers (.requirement x) (.requirement y))
      (x.operation = y.operation) :=
    decides_forth (relates_equal_operation helpers _ _)
  have hagent : Decides
      ((forth .includes "agent").eval registry helpers (.requirement x) (.requirement y))
      (x.agent.Covers y.agent) :=
    decides_forth (relates_include_agent helpers _ _)
  have hinput : Decides
      ((forth .includes "input").eval registry helpers (.requirement x) (.requirement y))
      (Entity.CoverAll x.input y.input) :=
    decides_forth (relates_include_entities hentities rfl rfl rfl)
  have houtput : Decides
      ((forth .includes "output").eval registry helpers (.requirement x) (.requirement y))
      (Entity.CoverAll x.output y.output) :=
    decides_forth (relates_include_entities hentities rfl rfl rfl)
  have hrestriction : Decides
      ((back .includes "restriction").eval registry helpers (.requirement x) (.requirement y))
      (∀ text ∈ x.restriction, text ∈ y.restriction) :=
    decides_back (relates_include_restriction helpers _ _)
  have hevent : Decides
      ((forth .equals "event").eval registry helpers (.requirement x) (.requirement y))
      (∀ event, event ∈ x.events ↔ event ∈ y.events) :=
    decides_forth (relates_equal_event helpers x y)
  apply decides_conjunction
  apply decides_evalAll_cons hoperation
  apply decides_evalAll_cons hagent
  apply decides_evalAll_cons hinput
  apply decides_evalAll_cons houtput
  apply decides_evalAll_cons hrestriction
  exact decides_evalAll_singleton hevent

theorem decides_eventInclusion (hconditions : ServesConditions helpers) (x y : Requirement) :
    Decides (eventInclusion.eval registry helpers (.requirement x) (.requirement y))
      (x.EventIncludes y) := by
  have hagent : Decides
      ((forth .equals "agent").eval registry helpers (.requirement x) (.requirement y))
      (x.agent = y.agent) :=
    decides_forth (relates_equal_agent helpers _ _)
  have hoperation : Decides
      ((forth .equals "operation").eval registry helpers (.requirement x) (.requirement y))
      (x.operation = y.operation) :=
    decides_forth (relates_equal_operation helpers _ _)
  have hinput : Decides
      ((forth .equals "input").eval registry helpers (.requirement x) (.requirement y))
      (∀ entity, entity ∈ x.input ↔ entity ∈ y.input) :=
    decides_forth (relates_equal_entities helpers rfl rfl rfl)
  have houtput : Decides
      ((forth .equals "output").eval registry helpers (.requirement x) (.requirement y))
      (∀ entity, entity ∈ x.output ↔ entity ∈ y.output) :=
    decides_forth (relates_equal_entities helpers rfl rfl rfl)
  have hcovered : Decides
      ((forth .includes "event").eval registry helpers (.requirement x) (.requirement y))
      (Condition.EventsCover x.events y.events) :=
    decides_forth (relates_include_event hconditions x y)
  have hdifferent : Decides
      ((negation (forth .equals "event")).eval registry helpers (.requirement x) (.requirement y))
      (¬∀ event, event ∈ x.events ↔ event ∈ y.events) :=
    decides_negation (decides_forth (relates_equal_event helpers x y))
  apply decides_conjunction
  apply decides_evalAll_cons hagent
  apply decides_evalAll_cons hoperation
  apply decides_evalAll_cons hinput
  apply decides_evalAll_cons houtput
  apply decides_evalAll_cons hcovered
  exact decides_evalAll_singleton hdifferent

theorem decides_operationEventInterlock (hentities : ServesEntities helpers)
    (x y : Requirement) :
    Decides (operationEventInterlock.eval registry helpers (.requirement x) (.requirement y))
      (x.TriggersEvent y) := by
  apply decides_loop_second (conditions_event y)
  intro c
  apply decides_named
  exact decides_actionTriggersEvent hentities (.requirement x) (.condition c)

theorem decides_feeds (helpers : Helpers) (x y : Requirement) :
    Decides (feeds registry helpers (.requirement x) (.requirement y))
      (∃ produced ∈ x.output, ∃ consumed ∈ y.input, produced.Covers consumed) := by
  have houtput : (requirement x).field "output" = .ok (.entities x.output) :=
    field_of_field? rfl
  have hinput : (requirement y).field "input" = .ok (.entities y.input) :=
    field_of_field? rfl
  unfold feeds Subject.entities
  rw [houtput, hinput]
  apply Quantifier.decides_any
  intro produced
  apply Quantifier.decides_any
  intro consumed
  exact decides_entityIncludes helpers produced consumed

theorem decides_inputOutputInterlock (hentities : ServesEntities helpers) (x y : Requirement) :
    Decides (inputOutputInterlock.eval registry helpers (.requirement x) (.requirement y))
      (x.FeedsInput y) := by
  have hforth := decides_eventInconsistency hentities x y
  have hback := decides_eventInconsistency hentities y x
  exact decides_interlock 8 hforth hback (decides_feeds helpers x y)

/-! ## Judging -/

theorem servesEntities_helpersTo (depth : Nat) :
    ServesEntities (ruleSet.helpersTo (depth + 1)) :=
  fun as bs => decides_entitySetInclude (ruleSet.helpersTo depth) as bs

/-- The rule for conditions is found, and its own helper serves it. -/
theorem servesConditions_helpersTo (depth : Nat) :
    ServesConditions (ruleSet.helpersTo (depth + 2)) := by
  intro as bs
  apply Quantifier.decides_any
  intro c
  apply Quantifier.decides_any
  intro d
  have hrule := decides_conditionInclude (servesEntities_helpersTo depth)
    (.condition d) (.condition c)
  exact RuleError.decides_within hrule RuleName.conditionInclude

theorem judge_of_decides {name : String} {index : Nat} {rule : Rule}
    (hfind : ruleSet.find? name = some (index, rule))
    (hrule : Decides (rule.eval registry ruleSet.helpers x y) p) :
    Decides (ruleSet.judge name x y) p := by
  rw [RuleSet.judge, RuleSet.judgeWith, hfind]
  exact RuleError.decides_within hrule name

theorem decides_judge (kind : ConflictKind) (x y : Requirement) :
    Decides (ruleSet.judge kind.ruleName (.requirement x) (.requirement y)) (kind.Holds x y) := by
  have hentities : ServesEntities ruleSet.helpers := servesEntities_helpersTo 1
  have hconditions : ServesConditions ruleSet.helpers := servesConditions_helpersTo 0
  cases kind with
  | operationInconsistency =>
      exact judge_of_decides rfl (decides_operationInconsistency hentities hconditions x y)
  | restrictionInconsistency =>
      exact judge_of_decides rfl (decides_restrictionInconsistency hentities hconditions x y)
  | eventInconsistency => exact judge_of_decides rfl (decides_eventInconsistency hentities x y)
  | operationInclusion => exact judge_of_decides rfl (decides_operationInclusion hentities x y)
  | eventInclusion => exact judge_of_decides rfl (decides_eventInclusion hconditions x y)
  | operationEventInterlock =>
      exact judge_of_decides rfl (decides_operationEventInterlock hentities x y)
  | inputOutputInterlock => exact judge_of_decides rfl (decides_inputOutputInterlock hentities x y)

/-- The built-in rules compile.  Judging a kind of conflict by them is never an
error, and says whether the kind holds. -/
theorem judge_builtin :
    ∃ rules, compiled RulesDocument.builtinText = .ok rules ∧
      ∀ (kind : ConflictKind) (x y : Requirement),
        rules.judge kind.ruleName (.requirement x) (.requirement y) =
          .ok (decide (kind.Holds x y)) := by
  refine ⟨ruleSet, compiled_builtinText, ?_⟩
  intro kind x y
  exact (decides_judge kind x y).eq_ok

end BuiltinRules

end ReqConflict
