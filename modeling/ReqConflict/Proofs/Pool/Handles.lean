import Mathlib.Data.List.Forall2
import ReqConflict.Pool

/-!
# What handles stand for

Pooling hands out a handle for every entity it is given.  In the pool that
comes out of it the handle stands for an entity equal to the given one, and
later pooling does not change that, since a pool only grows at its end.  So
the handles of a requirement, taken together, stand for its entities in every
pool from the last of them on.
-/

namespace ReqConflict

variable {pool pool' pool'' : Pool} {handle : Handle} {entity : Entity} {α β : Type}

namespace Pool

/-- Every handle of the first pool stands for the same entity in the second. -/
def Extends (pool pool' : Pool) : Prop :=
  ∀ handle entity, pool.get? handle = some entity → pool'.get? handle = some entity

theorem Extends.refl (pool : Pool) : pool.Extends pool :=
  fun _ _ heq => heq

theorem Extends.trans (hfirst : pool.Extends pool') (hsecond : pool'.Extends pool'') :
    pool.Extends pool'' := by
  intro handle entity hget
  exact hsecond handle entity (hfirst handle entity hget)

/-- The handles stand for the entities, one for one. -/
def Holds (pool : Pool) (handles : List Handle) (entities : List Entity) : Prop :=
  List.Forall₂ (fun handle entity => pool.get? handle = some entity) handles entities

end Pool

/-- The handles of a condition stand for its entities. -/
structure ConditionHandles.Of (handles : ConditionHandles) (pool : Pool)
    (condition : Condition) : Prop where
  agent : pool.get? handles.agent = some condition.agent
  input : pool.Holds handles.input condition.input
  output : pool.Holds handles.output condition.output

structure RequirementHandles.Of (handles : RequirementHandles) (pool : Pool)
    (requirement : Requirement) : Prop where
  own : handles.toConditionHandles.Of pool requirement.toCondition
  events : List.Forall₂ (fun handles event => handles.Of pool event)
    handles.events requirement.events

namespace Pool

theorem get?_of_handle? (hhandle : pool.handle? entity = some handle) :
    pool.get? handle = some entity := by
  obtain ⟨⟨entities⟩, parts⟩ := pool
  have hfind : entities.idxOf? entity = some handle := by
    simpa [handle?] using hhandle
  obtain ⟨hlt, heq, _⟩ := List.idxOf?_eq_some_iff.mp hfind
  simp only [get?, List.getElem?_toArray]
  rw [List.getElem?_eq_getElem hlt, heq]

theorem get?_append (pool : Pool) (entity : Entity) (owner : Option Handle) :
    (pool.append entity owner).get? pool.size = some entity := by
  simp [append, get?, size]

theorem extends_append (pool : Pool) (entity : Entity) (owner : Option Handle) :
    pool.Extends (pool.append entity owner) := by
  intro handle other hother
  have hlt : handle < pool.entities.size := by
    by_contra hge
    have hnone : pool.entities[handle]? = none :=
      Array.getElem?_eq_none (Nat.le_of_not_lt hge)
    rw [get?, hnone] at hother
    cases hother
  have hsame : (pool.append entity owner).get? handle = pool.get? handle := by
    simp only [append, get?, Array.getElem?_push]
    rw [if_neg (Nat.ne_of_lt hlt)]
  rw [hsame]
  exact hother

/-- Pooling extends the pool, and its result is right in every later pool. -/
def Pools (action : StateM Pool α) (right : Pool → α → Prop) : Prop :=
  ∀ pool, pool.Extends (action pool).2 ∧
    ∀ later, (action pool).2.Extends later → right later (action pool).1

theorem Pools.pure {value : α} {right : Pool → α → Prop} (hright : ∀ later, right later value) :
    Pools (pure value) right :=
  fun pool => ⟨Extends.refl pool, fun later _ => hright later⟩

theorem Pools.bind {action : StateM Pool α} {next : α → StateM Pool β}
    {first : Pool → α → Prop} {right : Pool → β → Prop} (haction : Pools action first)
    (hnext : ∀ value, Pools (next value) fun later result =>
      first later value → right later result) :
    Pools (action >>= next) right := by
  intro pool
  obtain ⟨hextends, hfirst⟩ := haction pool
  obtain ⟨hextends', hsecond⟩ := hnext (action pool).1 (action pool).2
  refine ⟨hextends.trans hextends', fun later hlater => ?_⟩
  exact hsecond later hlater (hfirst later (hextends'.trans hlater))

theorem pools_enter (entity : Entity) (owner : Option Handle) :
    Pools (enter entity owner) fun later handle => later.get? handle = some entity := by
  intro pool
  unfold enter
  cases hhandle : pool.handle? entity with
  | some handle =>
      refine ⟨Extends.refl pool, fun later hlater => ?_⟩
      exact hlater handle entity (get?_of_handle? hhandle)
  | none =>
      refine ⟨extends_append pool entity owner, fun later hlater => ?_⟩
      exact hlater pool.size entity (get?_append pool entity owner)

theorem pools_intern (entity : Entity) :
    Pools (intern entity) fun later handle => later.get? handle = some entity := by
  induction entity with
  | own noun => exact pools_enter (.own noun) none
  | part noun whole ih =>
      apply ih.bind
      intro owner pool
      obtain ⟨hextends, hentity⟩ := pools_enter (.part noun whole) (some owner) pool
      exact ⟨hextends, fun later hlater _ => hentity later hlater⟩

theorem pools_canonical (entity : Entity) :
    Pools (canonical entity) fun later handle => later.get? handle = some entity := by
  intro pool
  unfold canonical
  cases hhandle : pool.handle? entity with
  | some handle =>
      refine ⟨Extends.refl pool, fun later hlater => ?_⟩
      exact hlater handle entity (get?_of_handle? hhandle)
  | none => exact pools_intern entity pool

theorem pools_canonicalAll (entities : List Entity) :
    Pools (canonicalAll entities) fun later handles => later.Holds handles entities := by
  induction entities with
  | nil => exact Pools.pure fun _ => List.Forall₂.nil
  | cons entity entities ih =>
      apply (pools_canonical entity).bind
      intro handle
      apply ih.bind
      intro handles
      apply Pools.pure
      intro later hhandles hhandle
      exact List.Forall₂.cons hhandle hhandles

theorem pools_canonicalCondition (condition : Condition) :
    Pools (canonicalCondition condition) fun later handles => handles.Of later condition := by
  apply (pools_canonical condition.agent).bind
  intro agent
  apply (pools_canonicalAll condition.input).bind
  intro input
  apply (pools_canonicalAll condition.output).bind
  intro output
  apply Pools.pure
  intro later houtput hinput hagent
  exact ⟨hagent, hinput, houtput⟩

theorem pools_canonicalConditions (conditions : List Condition) :
    Pools (canonicalConditions conditions) fun later handles =>
      List.Forall₂ (fun handles condition => handles.Of later condition) handles conditions := by
  induction conditions with
  | nil => exact Pools.pure fun _ => List.Forall₂.nil
  | cons condition conditions ih =>
      apply (pools_canonicalCondition condition).bind
      intro handles
      apply ih.bind
      intro others
      apply Pools.pure
      intro later hothers hhandles
      exact List.Forall₂.cons hhandles hothers

/-- The handles of a pooled requirement stand for its entities. -/
theorem pools_canonicalRequirement (requirement : Requirement) :
    Pools (canonicalRequirement requirement) fun later handles =>
      handles.Of later requirement := by
  apply (pools_canonicalCondition requirement.toCondition).bind
  intro own
  apply (pools_canonicalConditions requirement.events).bind
  intro events
  apply Pools.pure
  intro later hevents hown
  exact ⟨hown, hevents⟩

end Pool

end ReqConflict
