import ReqConflict.Proofs.Pool.Handles

/-!
# Pooling what is pooled already

Pooling an entity that a pool holds leaves the pool as it is.  So pooling the
entities of a requirement that has handles in the pool adds none.
-/

namespace ReqConflict

namespace Pool

variable {pool : Pool} {handle : Handle} {entity : Entity} {α β : Type}

/-- The pool comes out of an action as it was. -/
def Keeps (action : StateM Pool α) (pool : Pool) : Prop :=
  (action pool).2 = pool

theorem Keeps.bind {action : StateM Pool α} {next : α → StateM Pool β}
    (haction : Keeps action pool) (hnext : ∀ value, Keeps (next value) pool) :
    Keeps (action >>= next) pool := by
  have hafter : (action >>= next) pool = next (action pool).1 (action pool).2 := rfl
  rw [Keeps, hafter, haction]
  exact hnext _

theorem keeps_pure (value : α) : Keeps (pure value) pool :=
  rfl

theorem exists_handle?_of_get? (hget : pool.get? handle = some entity) :
    ∃ known, pool.handle? entity = some known := by
  obtain ⟨⟨entities⟩, parts⟩ := pool
  have hmem : entity ∈ entities := List.mem_of_getElem? (by simpa [get?] using hget)
  cases hfind : entities.idxOf? entity with
  | none => exact absurd hmem (List.idxOf?_eq_none_iff.mp hfind)
  | some known => exact ⟨known, by simpa [handle?] using hfind⟩

theorem keeps_canonical (hget : pool.get? handle = some entity) :
    Keeps (canonical entity) pool := by
  obtain ⟨known, hknown⟩ := exists_handle?_of_get? hget
  rw [Keeps, canonical, hknown]

theorem keeps_canonicalAll {handles : List Handle} {entities : List Entity}
    (hholds : pool.Holds handles entities) : Keeps (canonicalAll entities) pool := by
  induction hholds with
  | nil => exact keeps_pure []
  | cons hget _ ih =>
      apply (keeps_canonical hget).bind
      intro handle
      apply ih.bind
      intro handles
      exact keeps_pure (handle :: handles)

theorem keeps_canonicalCondition {handles : ConditionHandles} {condition : Condition}
    (hof : handles.Of pool condition) : Keeps (canonicalCondition condition) pool := by
  apply (keeps_canonical hof.agent).bind
  intro agent
  apply (keeps_canonicalAll hof.input).bind
  intro input
  apply (keeps_canonicalAll hof.output).bind
  intro output
  exact keeps_pure _

theorem keeps_canonicalConditions {handles : List ConditionHandles} {conditions : List Condition}
    (hof : List.Forall₂ (fun handles condition => handles.Of pool condition) handles conditions) :
    Keeps (canonicalConditions conditions) pool := by
  induction hof with
  | nil => exact keeps_pure []
  | cons hcondition _ ih =>
      apply (keeps_canonicalCondition hcondition).bind
      intro handles
      apply ih.bind
      intro others
      exact keeps_pure (handles :: others)

theorem keeps_canonicalRequirement {handles : RequirementHandles} {requirement : Requirement}
    (hof : handles.Of pool requirement) : Keeps (canonicalRequirement requirement) pool := by
  apply (keeps_canonicalCondition hof.own).bind
  intro own
  apply (keeps_canonicalConditions hof.events).bind
  intro events
  exact keeps_pure _

end Pool

end ReqConflict
