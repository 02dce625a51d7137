import Mathlib.Data.Finset.Card
import Mathlib.Data.List.Nodup
import ReqConflict.Proofs.Pool.Session

/-!
# What pooling a requirement adds

A requirement mentions its entities, those of its events, and the owners of all
these.  Pooling it adds just the mentioned entities that the pool does not hold,
each of them once, however often it is mentioned and on whichever way an owner is
reached.  Nothing else changes: the requirement stays what it is, and pooling it
again finds everything in its place.
-/

namespace ReqConflict

/-- The entities of a condition, with their owners. -/
def Condition.mentioned (condition : Condition) : List Entity :=
  (condition.agent :: (condition.input ++ condition.output)).flatMap Entity.chain

def Requirement.mentioned (requirement : Requirement) : List Entity :=
  requirement.toCondition.mentioned ++ requirement.events.flatMap Condition.mentioned

theorem Entity.mem_chain_self (entity : Entity) : entity ∈ entity.chain := by
  cases entity <;> simp [chain]

namespace Pool

variable {pool : Pool} {handle : Handle} {entity : Entity} {α β : Type}

theorem contains_iff : pool.contains entity = true ↔ entity ∈ pool.entities.toList := by
  simp [contains]

theorem contains_of_handle? (hhandle : pool.handle? entity = some handle) :
    pool.contains entity = true := by
  have hget := get?_of_handle? hhandle
  rw [get?, ← Array.getElem?_toList] at hget
  exact contains_iff.mpr (List.mem_of_getElem? hget)

theorem contains_append (pool : Pool) (added : Entity) (owner : Option Handle) :
    (pool.append added owner).contains entity = true ↔
      pool.contains entity = true ∨ entity = added := by
  simp [contains, append]

/-- The owners of what a pool holds are held as well. -/
def IsClosed (pool : Pool) : Prop :=
  ∀ entity, pool.contains entity = true → ∀ owner ∈ entity.chain, pool.contains owner = true

/-- An entity that is held adds nothing. -/
theorem IsClosed.keeps (hclosed : pool.IsClosed) (hentity : pool.contains entity = true) :
    pool.IsClosed ∧ ∀ other,
      pool.contains other = true ↔ pool.contains other = true ∨ other ∈ entity.chain := by
  refine ⟨hclosed, fun other => ⟨Or.inl, ?_⟩⟩
  rintro (hother | hother)
  · exact hother
  · exact hclosed entity hentity other hother

/-- The action adds some entities, as far as they are missing, and no others. -/
def Adds (action : StateM Pool α) (added : List Entity) : Prop :=
  ∀ pool, pool.IsClosed → (action pool).2.IsClosed ∧
    ∀ entity, (action pool).2.contains entity = true ↔
      pool.contains entity = true ∨ entity ∈ added

theorem adds_pure (value : α) : Adds (pure value) [] := by
  intro pool hclosed
  refine ⟨hclosed, ?_⟩
  intro entity
  rw [List.mem_nil_iff, or_false]
  rfl

theorem Adds.bind {action : StateM Pool α} {next : α → StateM Pool β} {first second : List Entity}
    (haction : Adds action first) (hnext : ∀ value, Adds (next value) second) :
    Adds (action >>= next) (first ++ second) := by
  intro pool hclosed
  obtain ⟨hclosed', hfirst⟩ := haction pool hclosed
  obtain ⟨hclosed'', hsecond⟩ := hnext (action pool).1 (action pool).2 hclosed'
  refine ⟨hclosed'', fun entity => ?_⟩
  exact (hsecond entity).trans (by rw [hfirst, List.mem_append, or_assoc])

/-- Entering an entity whose owners are held. -/
theorem adds_enter (owner : Option Handle) (hclosed : pool.IsClosed)
    (howners : ∀ other ∈ entity.chain, other = entity ∨ pool.contains other = true) :
    (enter entity owner pool).2.IsClosed ∧ ∀ other,
      (enter entity owner pool).2.contains other = true ↔
        pool.contains other = true ∨ other ∈ entity.chain := by
  unfold enter
  cases hhandle : pool.handle? entity with
  | some handle =>
      exact hclosed.keeps (contains_of_handle? hhandle)
  | none =>
      constructor
      · intro held hheld other hother
        rw [contains_append] at hheld ⊢
        rcases hheld with hheld | rfl
        · exact Or.inl (hclosed held hheld other hother)
        · exact (howners other hother).symm
      · intro other
        rw [contains_append]
        constructor
        · rintro (hother | rfl)
          · exact Or.inl hother
          · exact Or.inr other.mem_chain_self
        · rintro (hother | hother)
          · exact Or.inl hother
          · exact (howners other hother).symm

theorem adds_intern (entity : Entity) : Adds (intern entity) entity.chain := by
  induction entity with
  | own noun =>
      intro pool hclosed
      exact adds_enter none hclosed (by simp [Entity.chain])
  | part noun whole ih =>
      intro pool hclosed
      obtain ⟨hclosed', hwhole⟩ := ih pool hclosed
      have howners : ∀ other ∈ (Entity.part noun whole).chain,
          other = .part noun whole ∨ (intern whole pool).2.contains other = true := by
        intro other hother
        exact (List.mem_cons.mp hother).imp_right fun hmem => (hwhole other).mpr (Or.inr hmem)
      obtain ⟨hclosed'', hpart⟩ := adds_enter (some (intern whole pool).1) hclosed' howners
      refine ⟨hclosed'', fun other => (hpart other).trans ?_⟩
      rw [hwhole, Entity.chain, List.mem_cons]
      tauto

theorem adds_canonical (entity : Entity) : Adds (canonical entity) entity.chain := by
  intro pool hclosed
  unfold canonical
  cases hhandle : pool.handle? entity with
  | some handle =>
      exact hclosed.keeps (contains_of_handle? hhandle)
  | none => exact adds_intern entity pool hclosed

theorem adds_canonicalAll (entities : List Entity) :
    Adds (canonicalAll entities) (entities.flatMap Entity.chain) := by
  induction entities with
  | nil => exact adds_pure []
  | cons entity entities ih =>
      have hothers : ∀ handle : Handle,
          Adds (canonicalAll entities >>= fun handles => pure (handle :: handles))
            (entities.flatMap Entity.chain ++ []) :=
        fun handle => ih.bind fun handles => adds_pure (handle :: handles)
      have hboth := (adds_canonical entity).bind hothers
      rwa [List.append_nil] at hboth

theorem adds_canonicalCondition (condition : Condition) :
    Adds (canonicalCondition condition) condition.mentioned := by
  have hall := (adds_canonical condition.agent).bind fun agent =>
    (adds_canonicalAll condition.input).bind fun input =>
      (adds_canonicalAll condition.output).bind fun output =>
        adds_pure (ConditionHandles.mk agent input output)
  rwa [List.append_nil, ← List.flatMap_append, ← List.flatMap_cons] at hall

theorem adds_canonicalConditions (conditions : List Condition) :
    Adds (canonicalConditions conditions) (conditions.flatMap Condition.mentioned) := by
  induction conditions with
  | nil => exact adds_pure []
  | cons condition conditions ih =>
      have hothers : ∀ handles : ConditionHandles,
          Adds (canonicalConditions conditions >>= fun others => pure (handles :: others))
            (conditions.flatMap Condition.mentioned ++ []) :=
        fun handles => ih.bind fun others => adds_pure (handles :: others)
      have hboth := (adds_canonicalCondition condition).bind hothers
      rwa [List.append_nil] at hboth

/-- A requirement adds what it mentions. -/
theorem adds_canonicalRequirement (requirement : Requirement) :
    Adds (canonicalRequirement requirement) requirement.mentioned := by
  have hboth := (adds_canonicalCondition requirement.toCondition).bind fun own =>
    (adds_canonicalConditions requirement.events).bind fun events =>
      adds_pure (RequirementHandles.mk own events)
  rwa [List.append_nil] at hboth

/-- A pool without repetitions grows by the number of different entities that
it lacks. -/
theorem size_eq_of_contains_iff {pool' : Pool} {added : List Entity}
    (hnodup : pool.entities.toList.Nodup) (hnodup' : pool'.entities.toList.Nodup)
    (hadded : ∀ entity, pool'.contains entity = true ↔
      pool.contains entity = true ∨ entity ∈ added) :
    pool'.size =
      pool.size + (added.toFinset.filter fun entity => pool.contains entity = false).card := by
  have hsize : ∀ {pool : Pool}, pool.entities.toList.Nodup →
      pool.size = pool.entities.toList.toFinset.card := by
    intro pool hnodup
    rw [List.toFinset_card_of_nodup hnodup, Array.length_toList, size]
  have hdisjoint : Disjoint pool.entities.toList.toFinset
      (added.toFinset.filter fun entity => pool.contains entity = false) := by
    rw [Finset.disjoint_left]
    intro entity hentity hmissing
    rw [List.mem_toFinset, ← contains_iff] at hentity
    rw [Finset.mem_filter, hentity] at hmissing
    exact Bool.false_ne_true hmissing.2.symm
  have hunion : pool'.entities.toList.toFinset = pool.entities.toList.toFinset ∪
      added.toFinset.filter fun entity => pool.contains entity = false := by
    ext entity
    rw [Finset.mem_union, Finset.mem_filter, List.mem_toFinset, List.mem_toFinset,
      List.mem_toFinset, ← contains_iff, ← contains_iff, hadded]
    cases pool.contains entity <;> simp
  rw [hsize hnodup', hsize hnodup, hunion, Finset.card_union_of_disjoint hdisjoint]

/-! ## One handle for each entity -/

theorem leftUnique_get? (hnodup : pool.entities.toList.Nodup) :
    Relator.LeftUnique fun handle entity => pool.get? handle = some entity := by
  intro handle other entity hhandle hother
  rw [get?, ← Array.getElem?_toList] at hhandle hother
  obtain ⟨hlt, hhandle⟩ := List.getElem?_eq_some_iff.mp hhandle
  obtain ⟨hlt', hother⟩ := List.getElem?_eq_some_iff.mp hother
  exact (List.Nodup.getElem_inj_iff hnodup).mp (hhandle.trans hother.symm)

theorem leftUnique_conditionHandles (hnodup : pool.entities.toList.Nodup) :
    Relator.LeftUnique fun (handles : ConditionHandles) condition => handles.Of pool condition := by
  intro handles others condition hhandles hothers
  obtain ⟨agent, input, output⟩ := handles
  obtain ⟨agent', input', output'⟩ := others
  have hone := leftUnique_get? hnodup
  have hagent : agent = agent' := hone hhandles.agent hothers.agent
  have hinput : input = input' := hone.forall₂ hhandles.input hothers.input
  have houtput : output = output' := hone.forall₂ hhandles.output hothers.output
  rw [hagent, hinput, houtput]

/-- The handles of a requirement are determined by the pool. -/
theorem leftUnique_requirementHandles (hnodup : pool.entities.toList.Nodup) :
    Relator.LeftUnique fun (handles : RequirementHandles) requirement =>
      handles.Of pool requirement := by
  intro handles others requirement hhandles hothers
  obtain ⟨own, events⟩ := handles
  obtain ⟨own', events'⟩ := others
  have hcondition := leftUnique_conditionHandles hnodup
  have hown : own = own' := hcondition hhandles.own hothers.own
  have hevents : events = events' := hcondition.forall₂ hhandles.events hothers.events
  rw [hown, hevents]

end Pool

namespace Reference

/-- The entities along a chain of references. -/
theorem map_entity_chain (reference : Reference) :
    reference.chain.map Reference.entity = reference.entity.chain := by
  induction reference with
  | own place noun => rfl
  | part place noun whole ih => rw [chain, List.map_cons, ih, Reference.entity, Entity.chain]

end Reference

namespace ReferencePool

open Reference

variable {refs : ReferencePool} {pool : Pool} {α β : Type}

theorem Numbers.contains_iff (hnumbers : refs.Numbers pool) {entity : Entity} :
    pool.contains entity = true ↔ ∃ reference ∈ refs.held, reference.entity = entity := by
  rw [Pool.contains_iff, hnumbers.entities, List.mem_map]

theorem Numbers.nodup_entities (hnumbers : refs.Numbers pool) (hsound : refs.Sound) :
    pool.entities.toList.Nodup :=
  hnumbers.entities ▸ hsound.distinct

theorem Numbers.isClosed (hnumbers : refs.Numbers pool) (hsound : refs.Sound) :
    pool.IsClosed := by
  intro entity hentity owner howner
  obtain ⟨reference, hreference, rfl⟩ := hnumbers.contains_iff.mp hentity
  rw [← map_entity_chain, List.mem_map] at howner
  obtain ⟨whole, hwhole, rfl⟩ := howner
  exact hnumbers.contains_iff.mpr ⟨whole, hsound.mem_of_mem_chain hreference whole hwhole, rfl⟩

/-! ## Pooling again -/

/-- The pool gives back a reference for its entity. -/
def Returns (refs : ReferencePool) (reference : Reference) : Prop :=
  refs.find? reference.entity = some reference

/-- The action yields a value and leaves the pool as it is. -/
def Rests (action : StateM ReferencePool α) (refs : ReferencePool) (value : α) : Prop :=
  action refs = (value, refs)

theorem Rests.bind {action : StateM ReferencePool α} {next : α → StateM ReferencePool β} {value : α}
    {result : β} (haction : Rests action refs value) (hnext : Rests (next value) refs result) :
    Rests (action >>= next) refs result := by
  have hafter : (action >>= next) refs = next (action refs).1 (action refs).2 := rfl
  rw [Rests, hafter, haction]
  exact hnext

theorem rests_pure (value : α) : Rests (pure value) refs value :=
  rfl

theorem Returns.rests {reference : Reference} (hreturns : refs.Returns reference) :
    Rests (canonical reference) refs reference := by
  rw [Rests, canonical_eq, hreturns]

theorem rests_canonicalAll {references : List Reference}
    (hreturns : ∀ reference ∈ references, refs.Returns reference) :
    Rests (canonicalAll references) refs references := by
  induction references with
  | nil => exact rests_pure []
  | cons reference references ih =>
      obtain ⟨hreference, hreferences⟩ := List.forall_mem_cons.mp hreturns
      apply hreference.rests.bind
      apply (ih hreferences).bind
      exact rests_pure (reference :: references)

theorem rests_canonicalCondition {condition : PointedCondition}
    (hreturns : ∀ reference ∈ condition.references, refs.Returns reference) :
    Rests (canonicalCondition condition) refs condition := by
  rw [PointedCondition.references, List.forall_mem_cons, List.forall_mem_append] at hreturns
  obtain ⟨hagent, hinput, houtput⟩ := hreturns
  apply hagent.rests.bind
  apply (rests_canonicalAll hinput).bind
  apply (rests_canonicalAll houtput).bind
  exact rests_pure condition

theorem rests_canonicalConditions {conditions : List PointedCondition}
    (hreturns : ∀ reference ∈ conditions.flatMap PointedCondition.references,
      refs.Returns reference) : Rests (canonicalConditions conditions) refs conditions := by
  induction conditions with
  | nil => exact rests_pure []
  | cons condition conditions ih =>
      rw [List.flatMap_cons, List.forall_mem_append] at hreturns
      obtain ⟨hcondition, hconditions⟩ := hreturns
      apply (rests_canonicalCondition hcondition).bind
      apply (ih hconditions).bind
      exact rests_pure (condition :: conditions)

/-- A requirement that points at the pool keeps its references. -/
theorem rests_canonicalRequirement {requirement : PointedRequirement}
    (hreturns : ∀ reference ∈ requirement.references, refs.Returns reference) :
    Rests (canonicalRequirement requirement) refs requirement := by
  rw [PointedRequirement.references, List.forall_mem_append] at hreturns
  obtain ⟨hown, hevents⟩ := hreturns
  apply (rests_canonicalCondition hown).bind
  apply (rests_canonicalConditions hevents).bind
  exact rests_pure requirement

end ReferencePool

/-- The operation is to read a text that cannot be read. -/
def PoolOperation.Fails : PoolOperation → Prop
  | readEntity text => ∃ error, Entity.read text = .error error
  | readCondition text => ∃ error, Condition.read text = .error error
  | readRequirement text id group => ∃ error, Requirement.read text id group = .error error
  | _ => False

namespace PoolSession

open ReferencePool

variable {session : PoolSession}

/-- A requirement as the session re-points it. -/
def pointed (session : PoolSession) (given : PointedRequirement) : PointedRequirement :=
  (ReferencePool.canonicalRequirement given session.refs).1

/-- The handles of a requirement in the pool of the session. -/
def handles (session : PoolSession) (given : PointedRequirement) : RequirementHandles :=
  (Pool.canonicalRequirement given.requirement session.pool).1

/-- The session after re-pointing a requirement. -/
def repointed (session : PoolSession) (given : PointedRequirement) : PoolSession :=
  session.step (.canonicalRequirement given)

/-- Re-pointing changes no entity, and it points at the pool. -/
theorem IsSound.pointed (hsound : session.IsSound) (given : PointedRequirement) :
    (session.pointed given).requirement = given.requirement ∧
      ∀ reference ∈ (session.pointed given).references,
        reference ∈ (session.repointed given).refs.held := by
  have hfollows := follows_canonicalRequirement given session.refs session.pool
    hsound.sound hsound.numbers trivial
  obtain ⟨_, _, _, hright⟩ := hfollows
  obtain ⟨hheld, hsame⟩ := hright _ List.prefix_rfl
  exact ⟨hsame, hheld⟩

theorem IsSound.repointed (hsound : session.IsSound) (given : PointedRequirement) :
    (session.repointed given).IsSound :=
  (hsound.step (.canonicalRequirement given)).1

/-- The references of a re-pointed requirement are those of the pool, down to the last owner. -/
theorem IsSound.find?_repointed (hsound : session.IsSound) {reference : Reference}
    (hreference : reference ∈ (session.pointed given).references.flatMap Reference.chain) :
    (session.repointed given).refs.find? reference.entity = some reference := by
  obtain ⟨root, hroot, hchain⟩ := List.mem_flatMap.mp hreference
  have hafter := (hsound.repointed given).sound
  have hheld := (hsound.pointed given).2 root hroot
  exact hafter.find?_of_mem (hafter.mem_of_mem_chain hheld reference hchain)

theorem handles_of (session : PoolSession) (given : PointedRequirement) :
    (session.handles given).Of (session.repointed given).pool given.requirement := by
  have hpools := Pool.pools_canonicalRequirement given.requirement session.pool
  exact hpools.2 _ (Pool.Extends.refl _)

/-- Re-pointing a requirement enters what it mentions. -/
theorem IsSound.contains_repointed (hsound : session.IsSound) (given : PointedRequirement)
    (entity : Entity) :
    (session.repointed given).pool.contains entity = true ↔
      session.pool.contains entity = true ∨ entity ∈ given.requirement.mentioned := by
  have hclosed : session.pool.IsClosed := hsound.numbers.isClosed hsound.sound
  have hadds := Pool.adds_canonicalRequirement given.requirement session.pool hclosed
  exact hadds.2 entity

theorem IsSound.nodup_entities (hsound : session.IsSound) : session.pool.entities.toList.Nodup :=
  hsound.numbers.nodup_entities hsound.sound

theorem IsSound.size_repointed (hsound : session.IsSound) (given : PointedRequirement) :
    (session.repointed given).pool.size = session.pool.size +
      (given.requirement.mentioned.toFinset.filter
        fun entity => session.pool.contains entity = false).card := by
  have hbefore := hsound.nodup_entities
  have hafter := (hsound.repointed given).nodup_entities
  exact Pool.size_eq_of_contains_iff hbefore hafter (hsound.contains_repointed given)

/-- Re-pointing once more gives the same references and leaves the references alone. -/
theorem IsSound.canonicalRequirement_pointed (hsound : session.IsSound)
    (given : PointedRequirement) :
    ReferencePool.canonicalRequirement (session.pointed given) (session.repointed given).refs =
      (session.pointed given, (session.repointed given).refs) := by
  have hafter := (hsound.repointed given).sound
  have hheld := (hsound.pointed given).2
  apply rests_canonicalRequirement
  intro reference hreference
  exact hafter.find?_of_mem (hheld reference hreference)

/-- Pooling once more gives the same handles and leaves the pool alone. -/
theorem IsSound.canonicalRequirement_repointed (hsound : session.IsSound)
    (given : PointedRequirement) :
    Pool.canonicalRequirement given.requirement (session.repointed given).pool =
      (session.handles given, (session.repointed given).pool) := by
  have hof := session.handles_of given
  have hkeeps := Pool.keeps_canonicalRequirement hof
  have hpools := Pool.pools_canonicalRequirement given.requirement (session.repointed given).pool
  rw [hkeeps] at hpools
  have hagain := hpools.2 _ (Pool.Extends.refl _)
  have hunique := Pool.leftUnique_requirementHandles (hsound.repointed given).nodup_entities
  exact Prod.ext (hunique hagain hof) hkeeps

/-- A text is read before the pool is touched. -/
theorem step_eq_self_of_fails {operation : PoolOperation} (hfails : operation.Fails) :
    session.step operation = session := by
  have hnothing : operation.onReferences session.refs = ([], session.refs) ∧
      operation.onPool session.pool = ((), session.pool) := by
    cases operation with
    | readEntity text | readCondition text | readRequirement text id group =>
        obtain ⟨error, hread⟩ := hfails
        simp only [PoolOperation.onReferences, PoolOperation.onPool, hread]
        exact ⟨rfl, rfl⟩
    | _ => exact hfails.elim
  rw [step, hnothing.1, hnothing.2, List.append_nil]

/-- Re-pointing a requirement after any session changes none of its entities.  Its references, to
owners as well, are those that the pool has from then on, the pool has grown at its end by the
mentioned entities that it lacked, and re-pointing again changes nothing.  Texts that cannot be
read leave the session as it is. -/
theorem canonicalRequirement_run (operations : List PoolOperation) (given : PointedRequirement) :
    let before := run operations
    let after := before.step (.canonicalRequirement given)
    (before.pointed given).requirement = given.requirement ∧
      (before.handles given).Of after.pool given.requirement ∧
      (∀ reference ∈ (before.pointed given).references.flatMap Reference.chain,
        after.refs.find? reference.entity = some reference ∧
          (after.pool.handle? reference.entity).map Allocation.pooled = some reference.place) ∧
      before.refs.held <+: after.refs.held ∧
      after.pool.entities.toList = after.refs.held.map Reference.entity ∧
      (∀ entity, after.pool.contains entity = true ↔
        before.pool.contains entity = true ∨ entity ∈ given.requirement.mentioned) ∧
      after.pool.size = before.pool.size + (given.requirement.mentioned.toFinset.filter
        fun entity => before.pool.contains entity = false).card ∧
      ReferencePool.canonicalRequirement (before.pointed given) after.refs =
        (before.pointed given, after.refs) ∧
      Pool.canonicalRequirement given.requirement after.pool = (before.handles given, after.pool) ∧
      ∀ operation : PoolOperation, operation.Fails → before.step operation = before := by
  intro before after
  have hbefore : before.IsSound := isSound_run operations
  have hafter : after.IsSound := hbefore.repointed given
  have hsame : (before.pointed given).requirement = given.requirement :=
    (hbefore.pointed given).1
  have hfound : ∀ reference ∈ (before.pointed given).references.flatMap Reference.chain,
      after.refs.find? reference.entity = some reference ∧
        (after.pool.handle? reference.entity).map Allocation.pooled = some reference.place := by
    intro reference hreference
    have hfind : after.refs.find? reference.entity = some reference :=
      hbefore.find?_repointed hreference
    refine ⟨hfind, ?_⟩
    rw [hafter.numbers.handle?_map hafter.sound, hfind, Option.map_some]
  have hgrown : before.refs.held <+: after.refs.held := (hbefore.step _).2
  have hfails : ∀ operation : PoolOperation, operation.Fails → before.step operation = before := by
    intro operation hfails
    exact step_eq_self_of_fails hfails
  exact ⟨hsame, before.handles_of given, hfound, hgrown, hafter.numbers.entities,
    hbefore.contains_repointed given, hbefore.size_repointed given,
    hbefore.canonicalRequirement_pointed given, hbefore.canonicalRequirement_repointed given,
    hfails⟩

/-- The lock of the door is mentioned three times, the door, pooled before, only as its owner. -/
def guardedLock : Requirement :=
  let lock : Entity := .part ⟨"lock", .empty, false⟩ (.own ⟨"door", .empty, false⟩)
  let guard : Entity := .own ⟨"guard", .empty, false⟩
  { id := 1, group := 0
    events := [{ agent := guard, operation := ⟨"press", false, false⟩, input := [lock],
                 output := [], restriction := [] }]
    agent := .system, operation := ⟨"open", false, false⟩, input := [lock], output := [lock],
    restriction := [] }

theorem canonicalRequirement_run_guardedLock :
    let before := run [.intern ⟨"door", .empty, false⟩ none]
    let after := before.step (.canonicalRequirement (.outside guardedLock))
    after.pool.size = before.pool.size + 3 ∧
      (PoolOperation.readEntity "lock[of").Fails ∧
      before.step (.readEntity "lock[of") = before := by
  intro before after
  obtain ⟨_, _, _, _, _, _, hsize, _, _, hfails⟩ :=
    canonicalRequirement_run [.intern ⟨"door", .empty, false⟩ none] (.outside guardedLock)
  have hthree : (guardedLock.mentioned.toFinset.filter
      fun entity => before.pool.contains entity = false).card = 3 := by decide +kernel
  have hnone : (Entity.read "lock[of").toOption = none := by decide +kernel
  have hbad : (PoolOperation.readEntity "lock[of").Fails := by
    cases hread : Entity.read "lock[of" with
    | error error => exact ⟨error, hread⟩
    | ok entity => rw [hread] at hnone; cases hnone
  rw [PointedRequirement.requirement_outside, hthree] at hsize
  exact ⟨hsize, hbad, hfails _ hbad⟩

end PoolSession

end ReqConflict
