import ReqConflict.Model

/-!
# Handles as references

A handle of an entity is a reference to an allocation, and two handles of equal
entities may or may not share one.  The owner of an entity is held by reference
as well.  Here the pool is followed at this level: it is given references from
anywhere, looks them up by what they hold, and hands out references of its own.
A requirement is re-pointed at them field by field.
-/

namespace ReqConflict

/-- An allocation made by the pool, numbered in order, or one made by somebody else. -/
inductive Allocation where
  | pooled (number : Nat)
  | outside (number : Nat)
deriving DecidableEq, Repr

inductive Reference where
  | own (place : Allocation) (noun : Noun)
  | part (place : Allocation) (noun : Noun) (whole : Reference)
deriving DecidableEq, Repr

namespace Reference

def place : Reference → Allocation
  | own place _ => place
  | part place _ _ => place

def noun : Reference → Noun
  | own _ noun => noun
  | part _ noun _ => noun

def whole? : Reference → Option Reference
  | own _ _ => none
  | part _ _ whole => some whole

/-- The entity at the reference, without regard to places. -/
def entity : Reference → Entity
  | own _ noun => .own noun
  | part _ noun whole => .part noun whole.entity

def ofNoun (place : Allocation) (noun : Noun) : Option Reference → Reference
  | none => own place noun
  | some whole => part place noun whole

/-- The reference followed by that to its owner, and so on. -/
def chain : Reference → List Reference
  | own place noun => [own place noun]
  | part place noun whole => part place noun whole :: whole.chain

/-- A reference to an entity outside the pool, with owners of its own. -/
def outside : Entity → Reference
  | .own noun => own (.outside 0) noun
  | .part noun whole => part (.outside whole.chain.length) noun (outside whole)

def isPartOf (whole : Entity) (reference : Reference) : Bool :=
  reference.whole?.map entity == some whole

theorem entity_ofNoun (place : Allocation) (noun : Noun) (whole : Option Reference) :
    (ofNoun place noun whole).entity = Entity.ofNoun noun (whole.map entity) := by
  cases whole <;> rfl

theorem place_ofNoun (place : Allocation) (noun : Noun) (whole : Option Reference) :
    (ofNoun place noun whole).place = place := by
  cases whole <;> rfl

theorem whole?_ofNoun (place : Allocation) (noun : Noun) (whole : Option Reference) :
    (ofNoun place noun whole).whole? = whole := by
  cases whole <;> rfl

theorem entity_outside (entity : Entity) : (outside entity).entity = entity := by
  induction entity with
  | own noun => rfl
  | part noun whole ih => rw [outside, Reference.entity, ih]

theorem ofNoun_outside (entity : Entity) :
    Entity.ofNoun entity.noun ((entity.whole?.map outside).map Reference.entity) = entity := by
  rw [Option.map_map, show Reference.entity ∘ outside = id from funext entity_outside,
    Option.map_id, id_eq, Entity.ofNoun_noun_whole?]

end Reference

/-- A condition whose entities are held by reference. -/
structure PointedCondition where
  agent : Reference
  operation : Operation
  input : List Reference
  output : List Reference
  restriction : List String
deriving Repr, DecidableEq

structure PointedRequirement extends PointedCondition where
  id : UInt32
  group : UInt32
  events : List PointedCondition
deriving Repr, DecidableEq

namespace PointedCondition

def references (condition : PointedCondition) : List Reference :=
  condition.agent :: (condition.input ++ condition.output)

/-- The condition at the references. -/
def condition (pointed : PointedCondition) : Condition :=
  { agent := pointed.agent.entity
    operation := pointed.operation
    input := pointed.input.map Reference.entity
    output := pointed.output.map Reference.entity
    restriction := pointed.restriction }

def outside (condition : Condition) : PointedCondition :=
  { agent := .outside condition.agent
    operation := condition.operation
    input := condition.input.map .outside
    output := condition.output.map .outside
    restriction := condition.restriction }

end PointedCondition

namespace PointedRequirement

def references (requirement : PointedRequirement) : List Reference :=
  requirement.toPointedCondition.references ++
    requirement.events.flatMap PointedCondition.references

def requirement (pointed : PointedRequirement) : Requirement :=
  { pointed.toPointedCondition.condition with
    id := pointed.id
    group := pointed.group
    events := pointed.events.map PointedCondition.condition }

def outside (requirement : Requirement) : PointedRequirement :=
  { PointedCondition.outside requirement.toCondition with
    id := requirement.id
    group := requirement.group
    events := requirement.events.map .outside }

end PointedRequirement

/-- The references that a pool holds, in the order in which it made them, and the parts of those
that are owners.  Both are looked up by what a reference holds. -/
structure ReferencePool where
  held : List Reference
  parts : List (Reference × List Reference)
deriving Repr, DecidableEq

namespace ReferencePool

def empty : ReferencePool :=
  ⟨[], []⟩

def find? (pool : ReferencePool) (entity : Entity) : Option Reference :=
  pool.held.find? fun reference => reference.entity == entity

def partsIn (whole : Entity) (parts : List (Reference × List Reference)) : List Reference :=
  match parts with
  | [] => []
  | (owner, owned) :: others => if owner.entity = whole then owned else partsIn whole others

def partsOf (pool : ReferencePool) (whole : Entity) : List Reference :=
  partsIn whole pool.parts

/-- Adds a part to those of its owner. -/
def addPart (owner part : Reference) :
    List (Reference × List Reference) → List (Reference × List Reference)
  | [] => [(owner, [part])]
  | (other, owned) :: others =>
      if other.entity = owner.entity then (other, owned ++ [part]) :: others
      else (other, owned) :: addPart owner part others

/-- The reference to a new allocation.  The pool lets go of none, so the number of those that it
holds is not in use. -/
def fresh (pool : ReferencePool) (noun : Noun) (owner : Option Reference) : Reference :=
  .ofNoun (.pooled pool.held.length) noun owner

def allocate (pool : ReferencePool) (noun : Noun) (owner : Option Reference) : ReferencePool :=
  let reference := pool.fresh noun owner
  let parts :=
    match owner with
    | none => pool.parts
    | some owner => addPart owner reference pool.parts
  { held := pool.held ++ [reference], parts := parts }

/-- The pooled reference to an entity whose owner is pooled. -/
def enter (noun : Noun) (owner : Option Reference) : StateM ReferencePool Reference :=
  fun pool =>
    match pool.find? (.ofNoun noun (owner.map Reference.entity)) with
    | some existing => (existing, pool)
    | none => (pool.fresh noun owner, pool.allocate noun owner)

/-- The pooled reference to the entity at a reference.  If there is none, the owner is pooled
first, and what the reference holds is entered. -/
def canonical : Reference → StateM ReferencePool Reference
  | .own place noun => fun pool =>
      match pool.find? (Reference.own place noun).entity with
      | some existing => (existing, pool)
      | none => enter noun none pool
  | .part place noun whole => fun pool =>
      match pool.find? (Reference.part place noun whole).entity with
      | some existing => (existing, pool)
      | none => (canonical whole >>= fun owner => enter noun (some owner)) pool

/-- The pooled reference to an entity given by its noun and a reference to its owner. -/
def intern (noun : Noun) : Option Reference → StateM ReferencePool Reference
  | none => enter noun none
  | some whole => canonical whole >>= fun owner => enter noun (some owner)

theorem canonical_eq (reference : Reference) (pool : ReferencePool) :
    canonical reference pool =
      match pool.find? reference.entity with
      | some existing => (existing, pool)
      | none => intern reference.noun reference.whole? pool := by
  cases reference <;> rfl

def system : StateM ReferencePool Reference :=
  intern Entity.system.noun none

def canonicalAll : List Reference → StateM ReferencePool (List Reference)
  | [] => pure []
  | reference :: references => do
      let pooled ← canonical reference
      let others ← canonicalAll references
      pure (pooled :: others)

/-- Re-points a condition at pooled references. -/
def canonicalCondition (condition : PointedCondition) : StateM ReferencePool PointedCondition := do
  let agent ← canonical condition.agent
  let input ← canonicalAll condition.input
  let output ← canonicalAll condition.output
  pure { condition with agent := agent, input := input, output := output }

def canonicalConditions : List PointedCondition → StateM ReferencePool (List PointedCondition)
  | [] => pure []
  | condition :: conditions => do
      let pooled ← canonicalCondition condition
      let others ← canonicalConditions conditions
      pure (pooled :: others)

/-- Re-points a requirement at pooled references, its own first, then those of its events. -/
def canonicalRequirement (requirement : PointedRequirement) :
    StateM ReferencePool PointedRequirement := do
  let own ← canonicalCondition requirement.toPointedCondition
  let events ← canonicalConditions requirement.events
  pure { own with id := requirement.id, group := requirement.group, events := events }

/-- Reads lines as `Model.readLines` does, re-pointing each requirement as soon as it is read. -/
def readLines (line count : Nat) :
    List (List Char) → StateM ReferencePool (Except ModelError (List PointedRequirement))
  | [] => pure (.ok [])
  | text :: others =>
      let text := Text.trimEnd text
      if Model.isTupleLine text then
        match Model.readLine count text with
        | .error cause => pure (.error ⟨line, cause⟩)
        | .ok requirement => do
            let pointed ← canonicalRequirement (.outside requirement)
            let rest ← readLines (line + 1) (count + 1) others
            pure (rest.map (pointed :: ·))
      else readLines (line + 1) count others

variable {text : List Char} {texts : List (List Char)} {line count : Nat}

theorem readLines_cons_of_short (hshort : Model.isTupleLine (Text.trimEnd text) = false) :
    readLines line count (text :: texts) = readLines (line + 1) count texts := by
  rw [readLines]
  simp only [hshort]
  rfl

theorem readLines_cons_of_error {cause : TupleError}
    (htuple : Model.isTupleLine (Text.trimEnd text) = true)
    (hread : Model.readLine count (Text.trimEnd text) = .error cause) :
    readLines line count (text :: texts) = pure (.error ⟨line, cause⟩) := by
  rw [readLines]
  simp only [htuple, if_true, hread]

theorem readLines_cons_of_ok {requirement : Requirement}
    (htuple : Model.isTupleLine (Text.trimEnd text) = true)
    (hread : Model.readLine count (Text.trimEnd text) = .ok requirement) :
    readLines line count (text :: texts) =
      canonicalRequirement (.outside requirement) >>= fun pointed =>
        readLines (line + 1) (count + 1) texts >>= fun rest =>
          pure (rest.map (pointed :: ·)) := by
  rw [readLines]
  simp only [htuple, if_true, hread]

end ReferencePool

end ReqConflict
