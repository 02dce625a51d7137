import ReqConflict.Rule.Name

/-!
# Conflicts

A conflict is of a kind, which is decided by a rule of the same name, and names
the requirements that are involved.
-/

namespace ReqConflict

inductive ConflictKind where
  | operationInconsistency
  | restrictionInconsistency
  | eventInconsistency
  | operationInclusion
  | eventInclusion
  | operationEventInterlock
  | inputOutputInterlock
deriving DecidableEq, Repr

namespace ConflictKind

def ruleName : ConflictKind → String
  | operationInconsistency => RuleName.operationInconsistency
  | restrictionInconsistency => RuleName.restrictionInconsistency
  | eventInconsistency => RuleName.eventInconsistency
  | operationInclusion => RuleName.operationInclusion
  | eventInclusion => RuleName.eventInclusion
  | operationEventInterlock => RuleName.operationEventInterlock
  | inputOutputInterlock => RuleName.inputOutputInterlock

/-- Kinds judged once for a pair. -/
def symmetric : List ConflictKind :=
  [operationInconsistency, restrictionInconsistency, eventInconsistency]

/-- Kinds judged in one direction, and in the other if they do not hold. -/
def directional : List ConflictKind :=
  [operationInclusion, eventInclusion]

/-- Kinds judged in both directions, whose cycles are conflicts. -/
def interlock : List ConflictKind :=
  [operationEventInterlock, inputOutputInterlock]

def every : List ConflictKind :=
  symmetric ++ directional ++ interlock

def ofName? (name : String) : Option ConflictKind :=
  every.find? fun kind => kind.ruleName == name

end ConflictKind

/-- A conflict between requirements, which are given by `α`: by themselves or by
their positions. -/
structure Conflict (α : Type) where
  kind : ConflictKind
  members : List α
deriving DecidableEq, Repr

namespace Conflict

variable {α β : Type}

def map (f : α → β) (conflict : Conflict α) : Conflict β :=
  ⟨conflict.kind, conflict.members.map f⟩

end Conflict

end ReqConflict
