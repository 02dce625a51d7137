import Mathlib.Data.List.Forall2
import ReqConflict.Proofs.BuiltinRules.Exclusion
import ReqConflict.Proofs.BuiltinRules.Members

/-!
# Lists inside events

The rules that the built-in document has for conditions read the lists of an
event as sets, as the other rules read the lists of a requirement.  Two kinds
also ask whether two requirements have the same events.  That compares events
as wholes, with their lists in order, so the order of the members inside an
event makes a difference to the inclusion of operations and of events, and to
nothing else.
-/

namespace ReqConflict

/-- Requirements that differ at most in the order and repetition of members
inside their events, and in their numbers. -/
structure Requirement.SameTriggers (x y : Requirement) : Prop where
  body : x.toCondition = y.toCondition
  events : List.Forall₂ Condition.SameSets x.events y.events

theorem Requirement.SameTriggers.refl (x : Requirement) : x.SameTriggers x :=
  ⟨rfl, List.forall₂_same.mpr fun event _ => .refl event⟩

theorem exists_mem_congr {α β : Type} {related : α → β → Prop} {as : List α} {bs : List β}
    (hmatch : List.Forall₂ related as bs) {p : α → Prop} {q : β → Prop}
    (hcongr : ∀ a b, related a b → (p a ↔ q b)) : (∃ a ∈ as, p a) ↔ ∃ b ∈ bs, q b := by
  induction hmatch with
  | nil => simp
  | cons hrelated _ ih => simp only [List.exists_mem_cons_iff, hcongr _ _ hrelated, ih]

theorem eq_nil_iff_of_forall₂ {α β : Type} {related : α → β → Prop} {as : List α} {bs : List β}
    (hmatch : List.Forall₂ related as bs) : as = [] ↔ bs = [] := by
  cases hmatch <;> simp

namespace Condition

variable {c c' d d' : Condition} {cs cs' ds ds' : List Condition}

theorem covers_congr (hcovering : c.SameSets c') (hcovered : d.SameSets d') :
    c.Covers d ↔ c'.Covers d' := by
  unfold Covers
  rw [hcovering.agent, hcovered.agent, hcovering.operation, hcovered.operation,
    Entity.coverAll_congr hcovering.input hcovered.input,
    Entity.coverAll_congr hcovering.output hcovered.output]

theorem eventsCover_of_forall₂ (hcovering : List.Forall₂ SameSets cs cs')
    (hcovered : List.Forall₂ SameSets ds ds') : EventsCover cs ds ↔ EventsCover cs' ds' := by
  refine or_congr (eq_nil_iff_of_forall₂ hcovering) ?_
  refine exists_mem_congr hcovering fun c c' hc => ?_
  exact exists_mem_congr hcovered fun d d' hd => covers_congr hc hd

end Condition

namespace Requirement

/-- What the inclusion of operations asks besides whether the events are the
same. -/
def OperationCovers (x y : Requirement) : Prop :=
  x.operation = y.operation ∧ x.agent.Covers y.agent ∧ Entity.CoverAll x.input y.input ∧
    Entity.CoverAll x.output y.output ∧ ∀ text ∈ x.restriction, text ∈ y.restriction

/-- What the inclusion of events asks besides whether the events differ. -/
def EventsWiden (x y : Requirement) : Prop :=
  x.agent = y.agent ∧ x.operation = y.operation ∧
    (∀ entity, entity ∈ x.input ↔ entity ∈ y.input) ∧
    (∀ entity, entity ∈ x.output ↔ entity ∈ y.output) ∧ Condition.EventsCover x.events y.events

theorem SameEvents.symm {x y : Requirement} (hsame : x.SameEvents y) : y.SameEvents x :=
  fun event => (hsame event).symm

theorem sameEvents_comm (x y : Requirement) : x.SameEvents y ↔ y.SameEvents x :=
  ⟨.symm, .symm⟩

theorem operationIncludes_iff (x y : Requirement) :
    x.OperationIncludes y ↔ x.OperationCovers y ∧ x.SameEvents y := by
  simp only [OperationIncludes, OperationCovers, SameEvents, and_assoc]

theorem eventIncludes_iff (x y : Requirement) :
    x.EventIncludes y ↔ x.EventsWiden y ∧ ¬x.SameEvents y := by
  simp only [EventIncludes, EventsWiden, SameEvents, and_assoc]

end Requirement

/-- A kind without the question whether the events are the same. -/
def ConflictKind.HoldsUpToEvents : ConflictKind → Requirement → Requirement → Prop
  | .operationInclusion => Requirement.OperationCovers
  | .eventInclusion => Requirement.EventsWiden
  | kind => kind.Holds

namespace Requirement

variable {x x' y y' : Requirement} (hx : x.SameTriggers x') (hy : y.SameTriggers y')

include hx hy

theorem eventsOverlap_of_sameTriggers : x.EventsOverlap y ↔ x'.EventsOverlap y' := by
  have hforth := Condition.eventsCover_of_forall₂ hx.events hy.events
  have hback := Condition.eventsCover_of_forall₂ hy.events hx.events
  exact or_congr hforth hback

theorem restrictionsContradict_of_sameTriggers :
    x.RestrictionsContradict y ↔ x'.RestrictionsContradict y' := by
  unfold RestrictionsContradict
  rw [hx.body, hy.body]

theorem eventInconsistent_of_sameTriggers : x.EventInconsistent y ↔ x'.EventInconsistent y' := by
  have hfirst : ∀ c c' : Condition, c.SameSets c' →
      (c.Contradicts y.toCondition ↔ c'.Contradicts y'.toCondition) := by
    intro c c' hc
    rw [hy.body]
    exact Condition.contradicts_congr hc (.refl _)
  have hsecond : ∀ d d' : Condition, d.SameSets d' →
      (x.toCondition.Contradicts d ↔ x'.toCondition.Contradicts d') := by
    intro d d' hd
    rw [hx.body]
    exact Condition.contradicts_congr (.refl _) hd
  have hevents := exists_mem_congr hx.events hfirst
  have hothers := exists_mem_congr hy.events hsecond
  exact or_congr hevents hothers

theorem triggersEvent_of_sameTriggers : x.TriggersEvent y ↔ x'.TriggersEvent y' := by
  apply exists_mem_congr hy.events
  intro c c' hc
  have hinput : Entity.CoverAll c.input x.input ↔ Entity.CoverAll c'.input x.input :=
    Entity.coverAll_congr hc.input fun _ => .rfl
  rw [← hx.body, hc.agent, hc.operation, hinput]

theorem eventsWiden_of_sameTriggers : x.EventsWiden y ↔ x'.EventsWiden y' := by
  unfold EventsWiden
  rw [hx.body, hy.body, Condition.eventsCover_of_forall₂ hx.events hy.events]

end Requirement

/-- Up to the comparison of events, every kind reads the lists inside events as
sets. -/
theorem ConflictKind.holdsUpToEvents_congr (kind : ConflictKind) {x x' y y' : Requirement}
    (hx : x.SameTriggers x') (hy : y.SameTriggers y') :
    kind.HoldsUpToEvents x y ↔ kind.HoldsUpToEvents x' y' := by
  cases kind with
  | operationInconsistency =>
      have hevents := Requirement.eventsOverlap_of_sameTriggers hx hy
      have hrestrictions := Requirement.restrictionsContradict_of_sameTriggers hx hy
      simp only [HoldsUpToEvents, Holds, Requirement.OperationInconsistent, hx.body, hy.body,
        hevents, hrestrictions]
  | restrictionInconsistency =>
      have hevents := Requirement.eventsOverlap_of_sameTriggers hx hy
      have hrestrictions := Requirement.restrictionsContradict_of_sameTriggers hx hy
      simp only [HoldsUpToEvents, Holds, Requirement.RestrictionInconsistent, hx.body, hy.body,
        hevents, hrestrictions]
  | eventInconsistency => exact Requirement.eventInconsistent_of_sameTriggers hx hy
  | operationInclusion =>
      simp only [HoldsUpToEvents, Requirement.OperationCovers, hx.body, hy.body]
  | eventInclusion => exact Requirement.eventsWiden_of_sameTriggers hx hy
  | operationEventInterlock => exact Requirement.triggersEvent_of_sameTriggers hx hy
  | inputOutputInterlock =>
      have hforth := Requirement.eventInconsistent_of_sameTriggers hx hy
      have hback := Requirement.eventInconsistent_of_sameTriggers hy hx
      simp only [HoldsUpToEvents, Holds, Requirement.FeedsInput, hx.body, hy.body, hforth, hback]

namespace ConflictKind

theorem holdsUpToEvents_of_not_directional {kind : ConflictKind} (hkind : kind ∉ directional) :
    kind.HoldsUpToEvents = kind.Holds := by
  cases kind with
  | operationInclusion | eventInclusion => exact absurd (by decide) hkind
  | _ => rfl

/-- Where the rest of an inclusion holds, the events alone decide it. -/
theorem holds_congr_iff {kind : ConflictKind} (hkind : kind ∈ directional)
    {x x' y y' : Requirement} (hx : x.SameTriggers x') (hy : y.SameTriggers y') :
    (kind.Holds x y ↔ kind.Holds x' y') ↔
      (kind.HoldsUpToEvents x y → (x.SameEvents y ↔ x'.SameEvents y')) := by
  have hrest := kind.holdsUpToEvents_congr hx hy
  simp only [directional, List.mem_cons, List.not_mem_nil, or_false] at hkind
  rcases hkind with rfl | rfl
  · simp only [HoldsUpToEvents] at hrest ⊢
    rw [Holds, Requirement.operationIncludes_iff, Requirement.operationIncludes_iff, ← hrest,
      and_congr_right_iff]
  · simp only [HoldsUpToEvents] at hrest ⊢
    rw [Holds, Requirement.eventIncludes_iff, Requirement.eventIncludes_iff, ← hrest,
      and_congr_right_iff, not_iff_not]

end ConflictKind

namespace BuiltinRules

/-- The order and repetition of the members of the lists inside events make no
difference to the built-in rules, the two kinds of inclusion aside.  To these
they do exactly where the rest of the rule holds and one of the two spellings
has the same events as the other requirement. -/
theorem judge_sameTriggers :
    ∃ rules, compiled RulesDocument.builtinText = .ok rules ∧
      ∀ (kind : ConflictKind) (x x' y : Requirement), x.SameTriggers x' →
        (kind ∉ ConflictKind.directional →
          rules.judge kind.ruleName (.requirement x) (.requirement y) =
              rules.judge kind.ruleName (.requirement x') (.requirement y) ∧
            rules.judge kind.ruleName (.requirement y) (.requirement x) =
              rules.judge kind.ruleName (.requirement y) (.requirement x')) ∧
        (kind ∈ ConflictKind.directional →
          (rules.judge kind.ruleName (.requirement x) (.requirement y) =
              rules.judge kind.ruleName (.requirement x') (.requirement y) ↔
            (kind.HoldsUpToEvents x y → (x.SameEvents y ↔ x'.SameEvents y))) ∧
          (rules.judge kind.ruleName (.requirement y) (.requirement x) =
              rules.judge kind.ruleName (.requirement y) (.requirement x') ↔
            (kind.HoldsUpToEvents y x → (x.SameEvents y ↔ x'.SameEvents y)))) := by
  refine ⟨ruleSet, compiled_builtinText, ?_⟩
  intro kind x x' y hx
  have hy : y.SameTriggers y := .refl y
  constructor
  · intro hkind
    have hforth := kind.holdsUpToEvents_congr hx hy
    have hback := kind.holdsUpToEvents_congr hy hx
    rw [ConflictKind.holdsUpToEvents_of_not_directional hkind] at hforth hback
    exact ⟨(judge_eq_judge_iff kind x y x' y).mpr hforth,
      (judge_eq_judge_iff kind y x y x').mpr hback⟩
  · intro hkind
    constructor
    · rw [judge_eq_judge_iff, ConflictKind.holds_congr_iff hkind hx hy]
    · rw [judge_eq_judge_iff, ConflictKind.holds_congr_iff hkind hy hx, y.sameEvents_comm x,
        y.sameEvents_comm x']

/-- A user presses some things. -/
def pressing (things : List String) : Condition where
  agent := .own ⟨"user", .empty, false⟩
  operation := ⟨"press", false, false⟩
  input := things.map fun thing => .own ⟨thing, .empty, false⟩
  output := []
  restriction := []

/-- A user has to press some things, whatever happens. -/
def alwaysPressing (things : List String) : Requirement :=
  { pressing things with id := 0, group := 0, events := [] }

/-- The system beeps when a user presses some things. -/
def beeping (things : List String) : Requirement where
  agent := .system
  operation := ⟨"beep", false, false⟩
  input := []
  output := []
  restriction := []
  id := 0
  group := 0
  events := [pressing things]

theorem sameTriggers_beeping :
    (beeping ["button", "lever"]).SameTriggers (beeping ["lever", "button", "lever"]) := by
  refine ⟨rfl, List.Forall₂.cons ?_ .nil⟩
  constructor <;> simp [pressing, or_comm]

/-- Pressing both things triggers the beep, in whatever order its event lists
them. -/
theorem judge_sameTriggers_beeping :
    ∃ rules, compiled RulesDocument.builtinText = .ok rules ∧
      (beeping ["button", "lever"]).SameTriggers (beeping ["lever", "button", "lever"]) ∧
      rules.judge ConflictKind.operationEventInterlock.ruleName
        (.requirement (alwaysPressing ["button", "lever"]))
        (.requirement (beeping ["lever", "button", "lever"])) = .ok true := by
  obtain ⟨rules, hrules, hsame⟩ := judge_sameTriggers
  refine ⟨rules, hrules, sameTriggers_beeping, ?_⟩
  have hboth := (hsame .operationEventInterlock _ _ (alwaysPressing ["button", "lever"])
    sameTriggers_beeping).1 (by decide)
  refine hboth.2.symm.trans ?_
  cases hrules.symm.trans compiled_builtinText
  exact (decides_judge .operationEventInterlock _ _).eq_ok_true_iff.mpr (by decide)

/-- An event whose things are listed in another order is another event to the
inclusion of operations. -/
theorem not_forall_judge_sameTriggers :
    ¬ ∀ rules, compiled RulesDocument.builtinText = .ok rules →
      ∀ (kind : ConflictKind) (x x' y : Requirement), x.SameTriggers x' →
        rules.judge kind.ruleName (.requirement x) (.requirement y) =
            rules.judge kind.ruleName (.requirement x') (.requirement y) ∧
          rules.judge kind.ruleName (.requirement y) (.requirement x) =
            rules.judge kind.ruleName (.requirement y) (.requirement x') := by
  intro hsame
  have hfirst := (hsame ruleSet compiled_builtinText .operationInclusion _ _
    (beeping ["button", "lever"]) sameTriggers_beeping).1
  rw [judge_eq_judge_iff] at hfirst
  exact absurd (hfirst.mp (by decide)) (by decide)

end BuiltinRules

end ReqConflict
