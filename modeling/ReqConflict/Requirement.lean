import ReqConflict.Entity

/-!
# Requirements

A requirement says who does what: an agent, an operation, the entities that
the operation takes and yields, and restrictions on when it is done.  The same
five fields make up a condition.  A requirement is triggered by conditions;
one without conditions always applies.

Requirements are numbered within a run.  A group number other than zero joins
the requirements that were split from one sentence.
-/

namespace ReqConflict

/-- What is done, whether it is forbidden, and whether it is a capability
rather than an act. -/
structure Operation where
  predicate : String
  negated : Bool
  able : Bool
deriving DecidableEq, Repr, Inhabited

structure Condition where
  agent : Entity
  operation : Operation
  input : List Entity
  output : List Entity
  restriction : List String
deriving DecidableEq, Repr, Inhabited

structure Requirement extends Condition where
  id : UInt32
  group : UInt32
  events : List Condition
deriving DecidableEq, Repr, Inhabited

namespace Requirement

def alwaysApplies (requirement : Requirement) : Bool :=
  requirement.events.isEmpty

/-- Both were split from the same sentence. -/
def isSibling (first second : Requirement) : Bool :=
  first.group != 0 && first.group == second.group

theorem isSibling_comm (first second : Requirement) :
    first.isSibling second = second.isSibling first := by
  rw [Bool.eq_iff_iff]
  simp only [isSibling, Bool.and_eq_true, bne_iff_ne, beq_iff_eq]
  constructor
  · rintro ⟨hne, heq⟩
    exact ⟨heq ▸ hne, heq.symm⟩
  · rintro ⟨hne, heq⟩
    exact ⟨heq ▸ hne, heq.symm⟩

end Requirement

end ReqConflict
