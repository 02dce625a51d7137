import ReqConflict.Proofs.Pool.Following

/-!
# Sessions with a pool

A session starts with an empty pool and does with it whatever it likes: pools
entities given by reference, re-points conditions and requirements, and reads
texts, which may fail.  All along, the references that the pool holds or has
handed out share an allocation just if they are equal, what is pooled stays,
and the parts of every entity are listed in the order in which they came.
-/

namespace ReqConflict

open Reference ReferencePool

/-- What can be done with a pool. -/
inductive PoolOperation where
  | intern (noun : Noun) (whole : Option Reference)
  | canonical (reference : Reference)
  | system
  | canonicalCondition (condition : PointedCondition)
  | canonicalRequirement (requirement : PointedRequirement)
  | readEntity (text : String)
  | readCondition (text : String)
  | readRequirement (text : String) (id group : UInt32)
  | readModel (text : String)

namespace PoolOperation

/-- Goes on with what was read from a text, if it could be read. -/
def withRead {σ α β : Type} (nothing : β) (outcome : Except TupleError α)
    (next : α → StateM σ β) : StateM σ β :=
  match outcome with
  | .error _ => pure nothing
  | .ok value => next value

/-- Does an operation at references and yields those that it hands out. -/
def onReferences : PoolOperation → StateM ReferencePool (List Reference)
  | intern noun whole => do
      let reference ← ReferencePool.intern noun whole
      pure [reference]
  | canonical reference => do
      let reference ← ReferencePool.canonical reference
      pure [reference]
  | system => do
      let reference ← ReferencePool.system
      pure [reference]
  | canonicalCondition condition => do
      let condition ← ReferencePool.canonicalCondition condition
      pure condition.references
  | canonicalRequirement requirement => do
      let requirement ← ReferencePool.canonicalRequirement requirement
      pure requirement.references
  | readEntity text =>
      withRead [] (Entity.read text) fun entity => do
        let reference ← ReferencePool.intern entity.noun (entity.whole?.map .outside)
        pure [reference]
  | readCondition text =>
      withRead [] (Condition.read text) fun condition => do
        let condition ← ReferencePool.canonicalCondition (.outside condition)
        pure condition.references
  | readRequirement text id group =>
      withRead [] (Requirement.read text id group) fun requirement => do
        let requirement ← ReferencePool.canonicalRequirement (.outside requirement)
        pure requirement.references
  | readModel text => do
      let outcome ← ReferencePool.readLines 1 0 (Text.lines text.toList)
      pure (handedOut outcome)

/-- Does an operation on a pool of handles. -/
def onPool : PoolOperation → StateM Pool Unit
  | intern noun whole => do
      let _ ← Pool.intern (.ofNoun noun (whole.map Reference.entity))
      pure ()
  | canonical reference => do
      let _ ← Pool.canonical reference.entity
      pure ()
  | system => do
      let _ ← Pool.system
      pure ()
  | canonicalCondition condition => do
      let _ ← Pool.canonicalCondition condition.condition
      pure ()
  | canonicalRequirement requirement => do
      let _ ← Pool.canonicalRequirement requirement.requirement
      pure ()
  | readEntity text =>
      withRead () (Entity.read text) fun entity => do
        let _ ← Pool.intern entity
        pure ()
  | readCondition text =>
      withRead () (Condition.read text) fun condition => do
        let _ ← Pool.canonicalCondition condition
        pure ()
  | readRequirement text id group =>
      withRead () (Requirement.read text id group) fun requirement => do
        let _ ← Pool.canonicalRequirement requirement
        pure ()
  | readModel text => do
      let _ ← (Model.read text : StateM Pool _)
      pure ()

/-- An operation that hands out what a pooling action yields. -/
theorem follows_handOut {α β : Type} {action : StateM ReferencePool α} {numbered : StateM Pool β}
    {right : List Reference → α → β → Prop} (given : α → List Reference)
    (haction : Follows Nothing action numbered right)
    (hgiven : ∀ held value number, right held value number →
      ∀ reference ∈ given value, reference ∈ held) :
    Follows Nothing (action >>= fun value => pure (given value)) (numbered >>= fun _ => pure ())
      fun held references _ => ∀ reference ∈ references, reference ∈ held := by
  apply haction.next
  intro value number
  apply follows_pure
  intro held hright
  exact hgiven held value number hright

/-- A text that cannot be read leaves everything as it is. -/
theorem follows_withRead {α : Type} {next : α → StateM ReferencePool (List Reference)}
    {numbered : α → StateM Pool Unit} (outcome : Except TupleError α)
    (hnext : ∀ value, Follows Nothing (next value) (numbered value)
      fun held references _ => ∀ reference ∈ references, reference ∈ held) :
    Follows Nothing (withRead [] outcome next) (withRead () outcome numbered)
      fun held references _ => ∀ reference ∈ references, reference ∈ held := by
  cases outcome with
  | error error => exact follows_pure fun _ _ hreference => absurd hreference List.not_mem_nil
  | ok value => exact hnext value

/-- Every operation hands out references that are held. -/
theorem follows (operation : PoolOperation) :
    Follows Nothing operation.onReferences operation.onPool
      fun held references _ => ∀ reference ∈ references, reference ∈ held := by
  have hone : ∀ {held reference handle entity}, Stands held reference handle entity →
      ∀ other ∈ [reference], other ∈ held :=
    fun hstands other hother => List.mem_singleton.mp hother ▸ hstands.mem
  cases operation with
  | intern noun whole =>
      exact follows_handOut _ (follows_intern noun whole) fun _ _ _ => hone
  | canonical reference =>
      exact follows_handOut _ (follows_canonical reference) fun _ _ _ => hone
  | system =>
      exact follows_handOut _ (follows_intern Entity.system.noun none) fun _ _ _ => hone
  | canonicalCondition condition =>
      exact follows_handOut _ (follows_canonicalCondition condition) fun _ _ _ hright => hright.1
  | canonicalRequirement requirement =>
      exact follows_handOut _ (follows_canonicalRequirement requirement)
        fun _ _ _ hright => hright.1
  | readEntity text =>
      apply follows_withRead
      intro entity
      have hintern := follows_intern entity.noun (entity.whole?.map .outside)
      rw [Reference.ofNoun_outside] at hintern
      exact follows_handOut _ hintern fun _ _ _ => hone
  | readCondition text =>
      apply follows_withRead
      intro condition
      have hcondition := follows_canonicalCondition (.outside condition)
      rw [PointedCondition.condition_outside] at hcondition
      exact follows_handOut _ hcondition fun _ _ _ hright => hright.1
  | readRequirement text id group =>
      apply follows_withRead
      intro requirement
      have hrequirement := follows_canonicalRequirement (.outside requirement)
      rw [PointedRequirement.requirement_outside] at hrequirement
      exact follows_handOut _ hrequirement fun _ _ _ hright => hright.1
  | readModel text =>
      exact follows_handOut _ (follows_readLines (Text.lines text.toList) 1 0)
        fun _ _ _ hright => hright.1

end PoolOperation

/-- A session: the pool at references, the pool of handles, and all references that were ever
handed out. -/
structure PoolSession where
  refs : ReferencePool
  pool : Pool
  handed : List Reference

namespace PoolSession

def start : PoolSession :=
  ⟨.empty, .empty, []⟩

def step (session : PoolSession) (operation : PoolOperation) : PoolSession :=
  { refs := (operation.onReferences session.refs).2
    pool := (operation.onPool session.pool).2
    handed := session.handed ++ (operation.onReferences session.refs).1 }

def run (operations : List PoolOperation) : PoolSession :=
  operations.foldl step start

/-- All references around: those to pooled entities, those in the index of parts and those that
were handed out, each with the references to its owners. -/
def references (session : PoolSession) : List Reference :=
  (session.refs.held ++ session.refs.parts.flatMap (fun entry => entry.1 :: entry.2) ++
    session.handed).flatMap Reference.chain

/-- What holds after every operation. -/
structure IsSound (session : PoolSession) : Prop where
  sound : session.refs.Sound
  numbers : session.refs.Numbers session.pool
  handed : ∀ reference ∈ session.handed, reference ∈ session.refs.held

variable {session : PoolSession}

theorem isSound_start : start.IsSound where
  sound := sound_empty
  numbers := numbers_empty
  handed := by simp [start]

theorem IsSound.step (hsound : session.IsSound) (operation : PoolOperation) :
    (session.step operation).IsSound ∧ session.refs.held <+: (session.step operation).refs.held := by
  obtain ⟨hsound', hnumbers', hgrows, hgiven⟩ :=
    operation.follows session.refs session.pool hsound.sound hsound.numbers trivial
  refine ⟨⟨hsound', hnumbers', ?_⟩, hgrows⟩
  intro reference hreference
  rcases List.mem_append.mp hreference with hreference | hreference
  · exact hgrows.subset (hsound.handed reference hreference)
  · exact hgiven _ List.prefix_rfl reference hreference

theorem IsSound.foldl_step (hsound : session.IsSound) (operations : List PoolOperation) :
    (operations.foldl PoolSession.step session).IsSound ∧
      session.refs.held <+: (operations.foldl PoolSession.step session).refs.held := by
  induction operations generalizing session with
  | nil => exact ⟨hsound, List.prefix_rfl⟩
  | cons operation operations ih =>
      obtain ⟨hstep, hgrows⟩ := hsound.step operation
      obtain ⟨hrest, hgrows'⟩ := ih hstep
      exact ⟨hrest, hgrows.trans hgrows'⟩

theorem isSound_run (operations : List PoolOperation) : (run operations).IsSound :=
  (isSound_start.foldl_step operations).1

theorem held_prefix_run_append (operations later : List PoolOperation) :
    (run operations).refs.held <+: (run (operations ++ later)).refs.held := by
  rw [run, run, List.foldl_append]
  exact ((isSound_run operations).foldl_step later).2

/-- All references around are held, so they are subject to the invariant of the pool. -/
theorem IsSound.mem_held (hsound : session.IsSound) {reference : Reference}
    (hreference : reference ∈ session.references) : reference ∈ session.refs.held := by
  obtain ⟨root, hroot, hchain⟩ := List.mem_flatMap.mp hreference
  have hheld : root ∈ session.refs.held := by
    rcases List.mem_append.mp hroot with hpooled | hhanded
    · rcases List.mem_append.mp hpooled with hheld | hindex
      · exact hheld
      · obtain ⟨entry, hentry, hmem⟩ := List.mem_flatMap.mp hindex
        obtain ⟨howner, hparts⟩ := hsound.sound.index entry hentry
        rcases List.mem_cons.mp hmem with rfl | hmem
        · exact howner
        · exact hparts root hmem
    · exact hsound.handed root hhanded
  exact hsound.sound.mem_of_mem_chain hheld reference hchain

theorem find?_run_append {operations : List PoolOperation} {entity : Entity}
    {reference : Reference} (hfind : (run operations).refs.find? entity = some reference)
    (later : List PoolOperation) :
    (run (operations ++ later)).refs.find? entity = some reference := by
  obtain ⟨added, hadded⟩ := held_prefix_run_append operations later
  rw [ReferencePool.find?] at hfind ⊢
  rw [← hadded, List.find?_append, hfind]
  rfl

/-- Whatever is done with a pool, references share an allocation just if they are equal, owners
are pooled all the way down, what is pooled keeps its reference, and the parts of an entity are the
pooled entities that it owns, in the order of their allocations.  The handles of the pool number
all this. -/
theorem run_invariant (operations : List PoolOperation) :
    (∀ first ∈ (run operations).references, ∀ second ∈ (run operations).references,
        first.place = second.place ↔ first.entity = second.entity) ∧
      (∀ reference ∈ (run operations).refs.held, ∀ owner ∈ reference.chain,
        owner ∈ (run operations).refs.held) ∧
      (∀ later entity reference, (run operations).refs.find? entity = some reference →
        (run (operations ++ later)).refs.find? entity = some reference) ∧
      (∀ (number : Nat) (reference : Reference),
        (run operations).refs.held[number]? = some reference →
          reference.place = .pooled number) ∧
      (∀ whole,
        (run operations).refs.partsOf whole =
            (run operations).refs.held.filter (isPartOf whole) ∧
          ((run operations).refs.partsOf whole).Nodup ∧
          ((run operations).refs.find? whole = none →
            (run operations).refs.partsOf whole = [])) ∧
      (∀ entity, ((run operations).pool.handle? entity).map Allocation.pooled =
        ((run operations).refs.find? entity).map Reference.place) ∧
      ∀ whole, ((run operations).pool.partsOf whole).map Allocation.pooled =
        ((run operations).refs.partsOf whole).map Reference.place := by
  have hrun := isSound_run operations
  refine ⟨?_, ?_, ?_, ?_, ?_, ?_, ?_⟩
  · intro first hfirst second hsecond
    exact hrun.sound.place_eq_iff (hrun.mem_held hfirst) (hrun.mem_held hsecond)
  · exact fun reference hreference => hrun.sound.mem_of_mem_chain hreference
  · exact fun later entity reference hfind => find?_run_append hfind later
  · exact hrun.sound.places
  · intro whole
    have hnodup : (run operations).refs.held.Nodup := hrun.sound.distinct.of_map _
    refine ⟨hrun.sound.parts whole, ?_, hrun.sound.partsOf_eq_nil⟩
    rw [hrun.sound.parts]
    exact hnodup.filter _
  · exact hrun.numbers.handle?_map hrun.sound
  · exact hrun.numbers.partsOf_map hrun.sound

end PoolSession

end ReqConflict
