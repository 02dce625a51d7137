import ReqConflict.Conflict
import ReqConflict.Requirement

/-!
# What the kinds of conflicts mean

The built-in rules, said without expressions, registry and rule trees.  An
entity covers another one if it is the same, or the same thing with no more
modifiers, or every instance of it.  The kinds are defined from this for two
requirements, the order of which matters for some of them.
-/

namespace ReqConflict

/-- Every instance of the covering entity, or the same thing less qualified. -/
def Entity.Covers (a b : Entity) : Prop :=
  a = b ∨
    a.base = b.base ∧ a.whole? = b.whole? ∧
      (a.isAll = true ∨ ∀ modifier ∈ a.modifiers.toList, modifier ∈ b.modifiers.toList)

/-- Every entity of the second list is covered by one of the first. -/
def Entity.CoverAll (covering covered : List Entity) : Prop :=
  ∀ b ∈ covered, ∃ a ∈ covering, a.Covers b

namespace Condition

variable (x y : Condition)

/-- What one takes covers what the other takes. -/
def Overlaps : Prop :=
  Entity.CoverAll x.input y.input ∨ Entity.CoverAll y.input x.input

def Contradicts : Prop :=
  x.agent = y.agent ∧ x.operation.predicate = y.operation.predicate ∧
    x.operation.negated ≠ y.operation.negated ∧ x.Overlaps y

def Covers : Prop :=
  x.agent.Covers y.agent ∧ x.operation = y.operation ∧
    Entity.CoverAll x.input y.input ∧ Entity.CoverAll x.output y.output

/-- No events cover all events; otherwise one event has to cover another. -/
def EventsCover (covering covered : List Condition) : Prop :=
  covering = [] ∨ ∃ c ∈ covering, ∃ d ∈ covered, c.Covers d

end Condition

namespace Requirement

variable (x y : Requirement)

/-- Both are restricted, and no restriction is common. -/
def RestrictionsContradict : Prop :=
  x.restriction ≠ [] ∧ y.restriction ≠ [] ∧ ∀ text ∈ x.restriction, text ∉ y.restriction

/-- The events of one cover those of the other. -/
def EventsOverlap : Prop :=
  Condition.EventsCover x.events y.events ∨ Condition.EventsCover y.events x.events

def OperationInconsistent : Prop :=
  x.toCondition.Contradicts y.toCondition ∧ ¬x.RestrictionsContradict y ∧ x.EventsOverlap y

def RestrictionInconsistent : Prop :=
  (x.agent = y.agent ∧ x.operation = y.operation ∧ x.toCondition.Overlaps y.toCondition) ∧
    x.EventsOverlap y ∧ x.RestrictionsContradict y

/-- One requirement contradicts an event of the other. -/
def EventInconsistent : Prop :=
  (∃ c ∈ x.events, c.Contradicts y.toCondition) ∨ ∃ d ∈ y.events, x.toCondition.Contradicts d

def OperationIncludes : Prop :=
  x.operation = y.operation ∧ x.agent.Covers y.agent ∧ Entity.CoverAll x.input y.input ∧
    Entity.CoverAll x.output y.output ∧ (∀ text ∈ x.restriction, text ∈ y.restriction) ∧
    ∀ event, event ∈ x.events ↔ event ∈ y.events

def EventIncludes : Prop :=
  x.agent = y.agent ∧ x.operation = y.operation ∧
    (∀ entity, entity ∈ x.input ↔ entity ∈ y.input) ∧
    (∀ entity, entity ∈ x.output ↔ entity ∈ y.output) ∧
    Condition.EventsCover x.events y.events ∧
    ¬∀ event, event ∈ x.events ↔ event ∈ y.events

/-- What one requires is an event of the other. -/
def TriggersEvent : Prop :=
  ∃ c ∈ y.events, c.agent.Covers x.agent ∧ x.operation = c.operation ∧
    Entity.CoverAll c.input x.input

/-- One yields what the other takes, and neither contradicts an event. -/
def FeedsInput : Prop :=
  ¬x.EventInconsistent y ∧ ¬y.EventInconsistent x ∧
    ∃ produced ∈ x.output, ∃ consumed ∈ y.input, produced.Covers consumed

end Requirement

/-- The meaning of a kind of conflict for two requirements in this order. -/
def ConflictKind.Holds : ConflictKind → Requirement → Requirement → Prop
  | .operationInconsistency => Requirement.OperationInconsistent
  | .restrictionInconsistency => Requirement.RestrictionInconsistent
  | .eventInconsistency => Requirement.EventInconsistent
  | .operationInclusion => Requirement.OperationIncludes
  | .eventInclusion => Requirement.EventIncludes
  | .operationEventInterlock => Requirement.TriggersEvent
  | .inputOutputInterlock => Requirement.FeedsInput

theorem Condition.overlaps_comm (x y : Condition) : x.Overlaps y ↔ y.Overlaps x :=
  Or.comm

theorem Condition.contradicts_comm (x y : Condition) : x.Contradicts y ↔ y.Contradicts x := by
  unfold Contradicts
  rw [overlaps_comm x y, eq_comm (a := x.agent), eq_comm (a := x.operation.predicate),
    ne_comm (a := x.operation.negated)]

namespace Requirement

variable (x y : Requirement)

theorem RestrictionsContradict.symm {x y : Requirement} (hxy : x.RestrictionsContradict y) :
    y.RestrictionsContradict x := by
  obtain ⟨hx, hy, hdisjoint⟩ := hxy
  refine ⟨hy, hx, ?_⟩
  intro text hmem hother
  exact hdisjoint text hother hmem

theorem restrictionsContradict_comm :
    x.RestrictionsContradict y ↔ y.RestrictionsContradict x :=
  ⟨.symm, .symm⟩

theorem eventsOverlap_comm : x.EventsOverlap y ↔ y.EventsOverlap x :=
  Or.comm

theorem operationInconsistent_comm : x.OperationInconsistent y ↔ y.OperationInconsistent x := by
  unfold OperationInconsistent
  rw [Condition.contradicts_comm, restrictionsContradict_comm, eventsOverlap_comm]

theorem restrictionInconsistent_comm :
    x.RestrictionInconsistent y ↔ y.RestrictionInconsistent x := by
  unfold RestrictionInconsistent
  rw [Condition.overlaps_comm, restrictionsContradict_comm, eventsOverlap_comm,
    eq_comm (a := x.agent), eq_comm (a := x.operation)]

theorem eventInconsistent_comm : x.EventInconsistent y ↔ y.EventInconsistent x := by
  unfold EventInconsistent
  simp only [Condition.contradicts_comm x.toCondition, Condition.contradicts_comm y.toCondition]
  exact Or.comm

end Requirement

theorem ConflictKind.holds_comm {kind : ConflictKind} (hkind : kind ∈ symmetric)
    (x y : Requirement) : kind.Holds x y ↔ kind.Holds y x := by
  cases kind with
  | operationInconsistency => exact x.operationInconsistent_comm y
  | restrictionInconsistency => exact x.restrictionInconsistent_comm y
  | eventInconsistency => exact x.eventInconsistent_comm y
  | _ => simp [symmetric] at hkind

theorem forall_mem_iff_iff {α : Type} {as bs : List α} :
    (∀ a, a ∈ as ↔ a ∈ bs) ↔ (∀ a ∈ as, a ∈ bs) ∧ ∀ a ∈ bs, a ∈ as := by
  constructor
  · intro hsame
    exact ⟨fun a => (hsame a).mp, fun a => (hsame a).mpr⟩
  · intro ⟨hab, hba⟩ a
    exact ⟨hab a, hba a⟩

instance decidableSameMembers {α : Type} [DecidableEq α] (as bs : List α) :
    Decidable (∀ a, a ∈ as ↔ a ∈ bs) :=
  decidable_of_iff' _ forall_mem_iff_iff

instance (a b : Entity) : Decidable (a.Covers b) :=
  inferInstanceAs (Decidable (a = b ∨
    a.base = b.base ∧ a.whole? = b.whole? ∧
      (a.isAll = true ∨ ∀ modifier ∈ a.modifiers.toList, modifier ∈ b.modifiers.toList)))

instance (covering covered : List Entity) : Decidable (Entity.CoverAll covering covered) :=
  inferInstanceAs (Decidable (∀ b ∈ covered, ∃ a ∈ covering, a.Covers b))

namespace Condition

variable (x y : Condition)

instance : Decidable (x.Overlaps y) :=
  inferInstanceAs (Decidable (_ ∨ _))

instance : Decidable (x.Contradicts y) :=
  inferInstanceAs (Decidable (_ ∧ _ ∧ _ ∧ _))

instance : Decidable (x.Covers y) :=
  inferInstanceAs (Decidable (_ ∧ _ ∧ _ ∧ _))

instance (covering covered : List Condition) : Decidable (EventsCover covering covered) :=
  inferInstanceAs (Decidable (covering = [] ∨ ∃ c ∈ covering, ∃ d ∈ covered, c.Covers d))

end Condition

namespace Requirement

variable (x y : Requirement)

instance : Decidable (x.RestrictionsContradict y) :=
  inferInstanceAs (Decidable (_ ∧ _ ∧ ∀ text ∈ x.restriction, text ∉ y.restriction))

instance : Decidable (x.EventsOverlap y) :=
  inferInstanceAs (Decidable (_ ∨ _))

instance : Decidable (x.OperationInconsistent y) :=
  inferInstanceAs (Decidable (_ ∧ ¬_ ∧ _))

instance : Decidable (x.RestrictionInconsistent y) :=
  inferInstanceAs (Decidable ((_ ∧ _ ∧ _) ∧ _ ∧ _))

instance : Decidable (x.EventInconsistent y) :=
  inferInstanceAs (Decidable
    ((∃ c ∈ x.events, c.Contradicts y.toCondition) ∨
      ∃ d ∈ y.events, x.toCondition.Contradicts d))

instance : Decidable (x.OperationIncludes y) :=
  inferInstanceAs (Decidable (_ ∧ _ ∧ _ ∧ _ ∧ (∀ text ∈ x.restriction, text ∈ y.restriction) ∧
    ∀ event, event ∈ x.events ↔ event ∈ y.events))

instance : Decidable (x.EventIncludes y) :=
  inferInstanceAs (Decidable (_ ∧ _ ∧ (∀ entity, entity ∈ x.input ↔ entity ∈ y.input) ∧
    (∀ entity, entity ∈ x.output ↔ entity ∈ y.output) ∧ _ ∧
    ¬∀ event, event ∈ x.events ↔ event ∈ y.events))

instance : Decidable (x.TriggersEvent y) :=
  inferInstanceAs (Decidable
    (∃ c ∈ y.events, c.agent.Covers x.agent ∧ x.operation = c.operation ∧
      Entity.CoverAll c.input x.input))

instance : Decidable (x.FeedsInput y) :=
  inferInstanceAs (Decidable
    (¬_ ∧ ¬_ ∧ ∃ produced ∈ x.output, ∃ consumed ∈ y.input, produced.Covers consumed))

end Requirement

instance (kind : ConflictKind) (x y : Requirement) : Decidable (kind.Holds x y) :=
  match kind with
  | .operationInconsistency => inferInstanceAs (Decidable (x.OperationInconsistent y))
  | .restrictionInconsistency => inferInstanceAs (Decidable (x.RestrictionInconsistent y))
  | .eventInconsistency => inferInstanceAs (Decidable (x.EventInconsistent y))
  | .operationInclusion => inferInstanceAs (Decidable (x.OperationIncludes y))
  | .eventInclusion => inferInstanceAs (Decidable (x.EventIncludes y))
  | .operationEventInterlock => inferInstanceAs (Decidable (x.TriggersEvent y))
  | .inputOutputInterlock => inferInstanceAs (Decidable (x.FeedsInput y))

end ReqConflict
