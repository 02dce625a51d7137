import ReqConflict.Proofs.BuiltinRules.Judgement

/-!
# Lists of requirements as sets

The built-in rules read the entities, restrictions and events of a requirement
only for which members there are.  Neither the order of the members nor their
repetition makes a difference to any kind.
-/

namespace ReqConflict

/-- Conditions that differ at most in the order and repetition of members. -/
structure Condition.SameSets (x y : Condition) : Prop where
  agent : x.agent = y.agent
  operation : x.operation = y.operation
  input : ∀ entity, entity ∈ x.input ↔ entity ∈ y.input
  output : ∀ entity, entity ∈ x.output ↔ entity ∈ y.output
  restriction : ∀ text, text ∈ x.restriction ↔ text ∈ y.restriction

/-- Requirements that differ at most in the order and repetition of members,
and in their numbers. -/
structure Requirement.SameSets (x y : Requirement) : Prop
    extends Condition.SameSets x.toCondition y.toCondition where
  events : ∀ event, event ∈ x.events ↔ event ∈ y.events

theorem Condition.SameSets.refl (x : Condition) : x.SameSets x :=
  ⟨rfl, rfl, fun _ => .rfl, fun _ => .rfl, fun _ => .rfl⟩

theorem Requirement.SameSets.refl (x : Requirement) : x.SameSets x :=
  ⟨.refl _, fun _ => .rfl⟩

theorem eq_nil_congr {α : Type} {as bs : List α} (hsame : ∀ a, a ∈ as ↔ a ∈ bs) :
    as = [] ↔ bs = [] := by
  simp only [List.eq_nil_iff_forall_not_mem, hsame]

theorem Entity.coverAll_congr {as as' bs bs' : List Entity}
    (hcovering : ∀ a, a ∈ as ↔ a ∈ as') (hcovered : ∀ b, b ∈ bs ↔ b ∈ bs') :
    CoverAll as bs ↔ CoverAll as' bs' := by
  simp only [CoverAll, hcovering, hcovered]

namespace Condition

variable {x x' y y' : Condition}

theorem overlaps_congr (hx : x.SameSets x') (hy : y.SameSets y') :
    x.Overlaps y ↔ x'.Overlaps y' := by
  have hforth := Entity.coverAll_congr hx.input hy.input
  have hback := Entity.coverAll_congr hy.input hx.input
  exact or_congr hforth hback

theorem contradicts_congr (hx : x.SameSets x') (hy : y.SameSets y') :
    x.Contradicts y ↔ x'.Contradicts y' := by
  unfold Contradicts
  rw [hx.agent, hy.agent, hx.operation, hy.operation, overlaps_congr hx hy]

theorem eventsCover_congr {cs cs' ds ds' : List Condition}
    (hcovering : ∀ c, c ∈ cs ↔ c ∈ cs') (hcovered : ∀ d, d ∈ ds ↔ d ∈ ds') :
    EventsCover cs ds ↔ EventsCover cs' ds' := by
  simp only [EventsCover, eq_nil_congr hcovering, hcovering, hcovered]

end Condition

namespace Requirement

variable {x x' y y' : Requirement} (hx : x.SameSets x') (hy : y.SameSets y')

include hx hy

theorem restrictionsContradict_congr :
    x.RestrictionsContradict y ↔ x'.RestrictionsContradict y' := by
  simp only [RestrictionsContradict, ne_eq, eq_nil_congr hx.restriction,
    eq_nil_congr hy.restriction, hx.restriction, hy.restriction]

theorem eventsOverlap_congr : x.EventsOverlap y ↔ x'.EventsOverlap y' := by
  have hforth := Condition.eventsCover_congr hx.events hy.events
  have hback := Condition.eventsCover_congr hy.events hx.events
  exact or_congr hforth hback

theorem operationInconsistent_congr :
    x.OperationInconsistent y ↔ x'.OperationInconsistent y' := by
  unfold OperationInconsistent
  rw [Condition.contradicts_congr hx.toSameSets hy.toSameSets,
    restrictionsContradict_congr hx hy, eventsOverlap_congr hx hy]

theorem restrictionInconsistent_congr :
    x.RestrictionInconsistent y ↔ x'.RestrictionInconsistent y' := by
  unfold RestrictionInconsistent
  rw [hx.agent, hy.agent, hx.operation, hy.operation,
    Condition.overlaps_congr hx.toSameSets hy.toSameSets, eventsOverlap_congr hx hy,
    restrictionsContradict_congr hx hy]

theorem eventInconsistent_congr : x.EventInconsistent y ↔ x'.EventInconsistent y' := by
  have hfirst : ∀ c : Condition, c.Contradicts y.toCondition ↔ c.Contradicts y'.toCondition :=
    fun c => Condition.contradicts_congr (.refl c) hy.toSameSets
  have hsecond : ∀ d : Condition, x.toCondition.Contradicts d ↔ x'.toCondition.Contradicts d :=
    fun d => Condition.contradicts_congr hx.toSameSets (.refl d)
  simp only [EventInconsistent, hx.events, hy.events, hfirst, hsecond]

theorem operationIncludes_congr : x.OperationIncludes y ↔ x'.OperationIncludes y' := by
  have hinput := Entity.coverAll_congr hx.input hy.input
  have houtput := Entity.coverAll_congr hx.output hy.output
  simp only [OperationIncludes, hx.agent, hy.agent, hx.operation, hy.operation, hinput, houtput,
    hx.restriction, hy.restriction, hx.events, hy.events]

theorem eventIncludes_congr : x.EventIncludes y ↔ x'.EventIncludes y' := by
  have hcover := Condition.eventsCover_congr hx.events hy.events
  simp only [EventIncludes, hx.agent, hy.agent, hx.operation, hy.operation, hx.input, hy.input,
    hx.output, hy.output, hcover, hx.events, hy.events]

theorem triggersEvent_congr : x.TriggersEvent y ↔ x'.TriggersEvent y' := by
  have hcovered : ∀ c : Condition, Entity.CoverAll c.input x.input ↔
      Entity.CoverAll c.input x'.input :=
    fun c => Entity.coverAll_congr (fun _ => .rfl) hx.input
  simp only [TriggersEvent, hx.agent, hx.operation, hy.events, hcovered]

theorem feedsInput_congr : x.FeedsInput y ↔ x'.FeedsInput y' := by
  have hforth := eventInconsistent_congr hx hy
  have hback := eventInconsistent_congr hy hx
  simp only [FeedsInput, hforth, hback, hx.output, hy.input]

end Requirement

theorem ConflictKind.holds_congr (kind : ConflictKind) {x x' y y' : Requirement}
    (hx : x.SameSets x') (hy : y.SameSets y') : kind.Holds x y ↔ kind.Holds x' y' := by
  cases kind with
  | operationInconsistency => exact Requirement.operationInconsistent_congr hx hy
  | restrictionInconsistency => exact Requirement.restrictionInconsistent_congr hx hy
  | eventInconsistency => exact Requirement.eventInconsistent_congr hx hy
  | operationInclusion => exact Requirement.operationIncludes_congr hx hy
  | eventInclusion => exact Requirement.eventIncludes_congr hx hy
  | operationEventInterlock => exact Requirement.triggersEvent_congr hx hy
  | inputOutputInterlock => exact Requirement.feedsInput_congr hx hy

namespace BuiltinRules

theorem judge_eq_judge_iff (kind : ConflictKind) (x y x' y' : Requirement) :
    ruleSet.judge kind.ruleName (.requirement x) (.requirement y) =
        ruleSet.judge kind.ruleName (.requirement x') (.requirement y') ↔
      (kind.Holds x y ↔ kind.Holds x' y') := by
  rw [(decides_judge kind x y).eq_ok, (decides_judge kind x' y').eq_ok, Except.ok.injEq,
    decide_eq_decide]

theorem judge_congr (kind : ConflictKind) {x x' y y' : Requirement} (hx : x.SameSets x')
    (hy : y.SameSets y') :
    ruleSet.judge kind.ruleName (.requirement x) (.requirement y) =
      ruleSet.judge kind.ruleName (.requirement x') (.requirement y') := by
  rw [judge_eq_judge_iff]
  exact kind.holds_congr hx hy

/-- The order and repetition of the members of a requirement's lists make no
difference to the built-in rules, whichever argument it is. -/
theorem judge_sameSets :
    ∃ rules, compiled RulesDocument.builtinText = .ok rules ∧
      ∀ (kind : ConflictKind) (x x' y : Requirement), x.SameSets x' →
        rules.judge kind.ruleName (.requirement x) (.requirement y) =
            rules.judge kind.ruleName (.requirement x') (.requirement y) ∧
          rules.judge kind.ruleName (.requirement y) (.requirement x) =
            rules.judge kind.ruleName (.requirement y) (.requirement x') := by
  refine ⟨ruleSet, compiled_builtinText, ?_⟩
  intro kind x x' y hx
  exact ⟨judge_congr kind hx (.refl y), judge_congr kind (.refl y) hx⟩

/-- The system mixes some things, in a manner and on some events. -/
def mixing (things : List String) (manner : List String) (events : List Condition) :
    Requirement where
  agent := .system
  operation := ⟨"mix", false, false⟩
  input := things.map fun thing => .own ⟨thing, .empty, false⟩
  output := []
  restriction := manner
  id := 0
  group := 0
  events := events

/-- Two things are given in another order, and one of them twice. -/
theorem judge_sameSets_mixing :
    ∃ rules, compiled RulesDocument.builtinText = .ok rules ∧
      (mixing ["water", "acid"] ["slowly"] []).SameSets
        (mixing ["acid", "water", "acid"] ["slowly", "slowly"] []) ∧
      rules.judge ConflictKind.operationInclusion.ruleName
        (.requirement (mixing ["acid", "water", "acid"] ["slowly", "slowly"] []))
        (.requirement (mixing ["water", "acid"] ["slowly"] [])) = .ok true := by
  obtain ⟨rules, hrules, hsame⟩ := judge_sameSets
  have hsets : (mixing ["water", "acid"] ["slowly"] []).SameSets
      (mixing ["acid", "water", "acid"] ["slowly", "slowly"] []) := by
    constructor
    · constructor <;> simp [mixing, or_comm]
    · simp [mixing]
  refine ⟨rules, hrules, hsets, (hsame .operationInclusion _ _ _ hsets).1.symm.trans ?_⟩
  cases hrules.symm.trans compiled_builtinText
  exact (decides_judge .operationInclusion _ _).eq_ok_true_iff.mpr (by decide)

end BuiltinRules

end ReqConflict
