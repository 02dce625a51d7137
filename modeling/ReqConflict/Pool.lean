import ReqConflict.Requirement

/-!
# The entity pool

A pool numbers the entities of a session.  Equal entities get one handle, the
owner of an entity is pooled before the entity itself, and a handle stays what
it is for as long as the pool lives.  Beside the entities, the pool keeps an
index of parts: for every pooled entity the handles of the entities that it
owns, in the order in which they were pooled.
-/

namespace ReqConflict

/-- The position of an entity in a pool. -/
abbrev Handle := Nat

structure Pool where
  entities : Array Entity
  parts : Array (Array Handle)
deriving Repr, DecidableEq

structure ConditionHandles where
  agent : Handle
  input : List Handle
  output : List Handle
deriving Repr, DecidableEq

/-- The handles of the entities of a requirement and of its events. -/
structure RequirementHandles extends ConditionHandles where
  events : List ConditionHandles
deriving Repr, DecidableEq

namespace Pool

def empty : Pool :=
  ⟨#[], #[]⟩

def size (pool : Pool) : Nat :=
  pool.entities.size

def isEmpty (pool : Pool) : Bool :=
  pool.entities.isEmpty

def handle? (pool : Pool) (entity : Entity) : Option Handle :=
  pool.entities.idxOf? entity

def get? (pool : Pool) (handle : Handle) : Option Entity :=
  pool.entities[handle]?

def contains (pool : Pool) (entity : Entity) : Bool :=
  pool.entities.contains entity

def partsOf (pool : Pool) (whole : Entity) : List Handle :=
  match pool.handle? whole with
  | none => []
  | some handle => (pool.parts[handle]?.getD #[]).toList

/-- Appends an entity that is not in the pool, under the given owner. -/
def append (pool : Pool) (entity : Entity) (owner : Option Handle) : Pool :=
  let handle := pool.size
  let parts :=
    match owner with
    | none => pool.parts
    | some owner => pool.parts.modify owner (·.push handle)
  { entities := pool.entities.push entity, parts := parts.push #[] }

/-- The handle of an entity whose owner is pooled; the entity is appended if
it is new. -/
def enter (entity : Entity) (owner : Option Handle) : StateM Pool Handle :=
  fun pool =>
    match pool.handle? entity with
    | some handle => (handle, pool)
    | none => (pool.size, pool.append entity owner)

/-- The handle of an entity.  A new entity is appended after its owners. -/
def intern : Entity → StateM Pool Handle
  | .own noun => enter (.own noun) none
  | .part noun whole => do
      let owner ← intern whole
      enter (.part noun whole) (some owner)

/-- The handle of an entity, looked for in the pool first. -/
def canonical (entity : Entity) : StateM Pool Handle :=
  fun pool =>
    match pool.handle? entity with
    | some handle => (handle, pool)
    | none => intern entity pool

def system : StateM Pool Handle :=
  intern .system

def canonicalAll : List Entity → StateM Pool (List Handle)
  | [] => pure []
  | entity :: entities => do
      let handle ← canonical entity
      let handles ← canonicalAll entities
      pure (handle :: handles)

def canonicalCondition (condition : Condition) : StateM Pool ConditionHandles := do
  let agent ← canonical condition.agent
  let input ← canonicalAll condition.input
  let output ← canonicalAll condition.output
  pure { agent := agent, input := input, output := output }

def canonicalConditions : List Condition → StateM Pool (List ConditionHandles)
  | [] => pure []
  | condition :: conditions => do
      let handles ← canonicalCondition condition
      let others ← canonicalConditions conditions
      pure (handles :: others)

/-- Pools the entities of a requirement: its own first, then those of its
events. -/
def canonicalRequirement (requirement : Requirement) : StateM Pool RequirementHandles := do
  let own ← canonicalCondition requirement.toCondition
  let events ← canonicalConditions requirement.events
  pure { own with events := events }

end Pool

end ReqConflict
