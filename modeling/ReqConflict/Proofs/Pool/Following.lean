import ReqConflict.Proofs.Model.RoundTrip
import ReqConflict.Proofs.Pool.Numbering

/-!
# Pooling side by side

`Follows` says that pooling at references goes along with pooling entities: the
pool of references stays sound and numbered by the pool of handles, it only
grows at its end, and what comes out is right in every later pool.  It is shown
of one entity by following the chain of owners, and from there of everything
that is made of entities.
-/

namespace ReqConflict

open Reference

namespace ReferencePool

variable {refs : ReferencePool} {pool : Pool} {reference existing : Reference} {entity : Entity}
  {noun : Noun} {handle : Handle} {α β γ δ : Type}

/-- An action on references goes along with one on handles, wherever it starts from a pool that
holds what the action needs. -/
def Follows (needs : List Reference → Prop) (action : StateM ReferencePool α)
    (numbered : StateM Pool β) (right : List Reference → α → β → Prop) : Prop :=
  ∀ refs pool, refs.Sound → refs.Numbers pool → needs refs.held →
    (action refs).2.Sound ∧ (action refs).2.Numbers (numbered pool).2 ∧
      refs.held <+: (action refs).2.held ∧
      ∀ held, (action refs).2.held <+: held → right held (action refs).1 (numbered pool).1

def Nothing : List Reference → Prop :=
  fun _ => True

variable {needs : List Reference → Prop} {right : List Reference → α → β → Prop}
  {action : StateM ReferencePool α} {numbered : StateM Pool β}

theorem follows_pure {value : α} {number : β} (hright : ∀ held, right held value number) :
    Follows Nothing (pure value) (pure number) right := by
  intro refs pool hsound hnumbers _
  refine ⟨hsound, hnumbers, List.prefix_rfl, ?_⟩
  intro held _
  exact hright held

theorem Follows.bind {next : α → StateM ReferencePool γ} {next' : β → StateM Pool δ}
    {right' : List Reference → γ → δ → Prop} (hfirst : Follows needs action numbered right)
    (hnext : ∀ value number, Follows (fun held => right held value number) (next value)
      (next' number) fun held result result' => right held value number → right' held result result') :
    Follows needs (action >>= next) (numbered >>= next') right' := by
  intro refs pool hsound hnumbers hneeds
  obtain ⟨hsound', hnumbers', hgrows, hvalue⟩ := hfirst refs pool hsound hnumbers hneeds
  have hstart : right (action refs).2.held (action refs).1 (numbered pool).1 :=
    hvalue _ List.prefix_rfl
  obtain ⟨hsound'', hnumbers'', hgrows', hresult⟩ := hnext (action refs).1 (numbered pool).1
    (action refs).2 (numbered pool).2 hsound' hnumbers' hstart
  refine ⟨hsound'', hnumbers'', hgrows.trans hgrows', ?_⟩
  intro held hheld
  have hfirstValue := hvalue held (hgrows'.trans hheld)
  exact hresult held hheld hfirstValue

/-- Two actions in a row of which the second needs nothing. -/
theorem Follows.next {next : α → StateM ReferencePool γ} {next' : β → StateM Pool δ}
    {right' : List Reference → γ → δ → Prop} (hfirst : Follows needs action numbered right)
    (hnext : ∀ value number, Follows Nothing (next value) (next' number)
      fun held result result' => right held value number → right' held result result') :
    Follows needs (action >>= next) (numbered >>= next') right' := by
  apply hfirst.bind
  intro value number refs pool hsound hnumbers _
  exact hnext value number refs pool hsound hnumbers trivial

/-- A reference held to an entity, with its number. -/
structure Stands (held : List Reference) (reference : Reference) (handle : Handle)
    (entity : Entity) : Prop where
  mem : reference ∈ held
  entity : reference.entity = entity
  place : reference.place = .pooled handle

theorem Stands.later {held held' : List Reference} (hstands : Stands held reference handle entity)
    (hgrows : held <+: held') : Stands held' reference handle entity :=
  ⟨hgrows.subset hstands.mem, hstands.entity, hstands.place⟩

theorem stands_of_find? (hsound : refs.Sound) (hnumbers : refs.Numbers pool)
    (hfind : refs.find? entity = some reference) :
    ∃ handle, pool.handle? entity = some handle ∧
      Stands refs.held reference handle entity := by
  obtain ⟨handle, hhandle, hheld⟩ := hnumbers.handle?_eq_some hsound hfind
  obtain ⟨hmem, hentity⟩ := mem_of_find? hfind
  exact ⟨handle, hhandle, hmem, hentity, hsound.places handle reference hheld⟩

/-- Entering goes along with entering, if the owners do. -/
theorem follows_enter (noun : Noun) {owner : Option Reference} {ownerHandle : Option Handle}
    (hplace : owner.map Reference.place = ownerHandle.map Allocation.pooled) :
    Follows (fun held => ∀ whole ∈ owner, whole ∈ held) (enter noun owner)
      (Pool.enter (.ofNoun noun (owner.map Reference.entity)) ownerHandle)
      fun held reference handle =>
        Stands held reference handle (.ofNoun noun (owner.map Reference.entity)) := by
  intro refs pool hsound hnumbers howner
  rw [enter, Pool.enter]
  cases hfind : refs.find? (.ofNoun noun (owner.map Reference.entity)) with
  | some existing =>
      obtain ⟨handle, hhandle, hstands⟩ := stands_of_find? hsound hnumbers hfind
      rw [hhandle]
      exact ⟨hsound, hnumbers, List.prefix_rfl, fun held hgrows => hstands.later hgrows⟩
  | none =>
      rw [hnumbers.handle?_eq_none hfind]
      have hsound' := hsound.allocate howner hfind
      have hnumbers' := hnumbers.append hsound howner hplace hfind
      have hfresh : Stands (refs.allocate noun owner).held (refs.fresh noun owner) pool.size
          (.ofNoun noun (owner.map Reference.entity)) := by
        refine ⟨by simp [held_allocate], entity_fresh refs noun owner, ?_⟩
        rw [fresh, place_ofNoun, hnumbers.size_eq]
      exact ⟨hsound', hnumbers', List.prefix_append _ _, fun held hgrows => hfresh.later hgrows⟩

theorem follows_enter_own (noun : Noun) :
    Follows Nothing (enter noun none) (Pool.enter (.own noun) none)
      fun held reference handle => Stands held reference handle (.own noun) := by
  intro refs pool hsound hnumbers _
  have hplace : (none : Option Reference).map Reference.place =
      (none : Option Handle).map Allocation.pooled := rfl
  exact follows_enter noun hplace refs pool hsound hnumbers (by simp)

theorem follows_enter_part (noun : Noun) (owner : Reference) (ownerHandle : Handle)
    (whole : Entity) :
    Follows (fun held => Stands held owner ownerHandle whole) (enter noun (some owner))
      (Pool.enter (.part noun whole) (some ownerHandle))
      fun held reference handle =>
        Stands held owner ownerHandle whole → Stands held reference handle (.part noun whole) := by
  intro refs pool hsound hnumbers hstands
  have hplace : (some owner).map Reference.place = (some ownerHandle).map Allocation.pooled :=
    congrArg some hstands.place
  have hfollows := follows_enter noun hplace refs pool hsound hnumbers
    (by simpa using hstands.mem)
  simp only [Option.map_some, hstands.entity] at hfollows
  obtain ⟨hsound', hnumbers', hgrows, hvalue⟩ := hfollows
  exact ⟨hsound', hnumbers', hgrows, fun held hheld _ => hvalue held hheld⟩

/-- Interning an entity whose handle is known changes nothing. -/
theorem intern_of_find? (hsound : refs.Sound) (hnumbers : refs.Numbers pool)
    (hfind : refs.find? entity = some reference) :
    ∃ handle, Pool.intern entity pool = (handle, pool) ∧
      Stands refs.held reference handle entity := by
  induction entity generalizing reference with
  | own noun =>
      obtain ⟨handle, hhandle, hstands⟩ := stands_of_find? hsound hnumbers hfind
      exact ⟨handle, by rw [Pool.intern, Pool.enter, hhandle], hstands⟩
  | part noun whole ih =>
      obtain ⟨handle, hhandle, hstands⟩ := stands_of_find? hsound hnumbers hfind
      cases reference with
      | own place noun' => cases hstands.entity
      | part place noun' owner =>
          -- the owner is held as well, so interning gets back to this pool before it looks up
          obtain ⟨rfl, rfl⟩ := Entity.part.inj hstands.entity
          have howner : owner ∈ refs.held := hsound.owners _ hstands.mem owner rfl
          obtain ⟨ownerHandle, hintern, _⟩ := ih (hsound.find?_of_mem howner)
          refine ⟨handle, ?_, hstands⟩
          have hrun : Pool.intern (.part noun' owner.entity) pool =
              Pool.enter (.part noun' owner.entity)
                (some (Pool.intern owner.entity pool).1) (Pool.intern owner.entity pool).2 := rfl
          rw [hrun, hintern, Pool.enter, hhandle]

/-- A reference is looked up first; interning what it holds is what is left to do. -/
theorem follows_canonical_of_intern (reference : Reference)
    (hintern : Follows Nothing (intern reference.noun reference.whole?)
      (Pool.intern reference.entity)
      fun held pooled handle => Stands held pooled handle reference.entity) :
    Follows Nothing (canonical reference) (Pool.intern reference.entity)
      fun held pooled handle => Stands held pooled handle reference.entity := by
  intro refs pool hsound hnumbers hneeds
  rw [canonical_eq]
  cases hfind : refs.find? reference.entity with
  | some existing =>
      obtain ⟨handle, hknown, hstands⟩ := intern_of_find? hsound hnumbers hfind
      rw [hknown]
      exact ⟨hsound, hnumbers, List.prefix_rfl, fun held hgrows => hstands.later hgrows⟩
  | none => exact hintern refs pool hsound hnumbers hneeds

theorem follows_canonical_intern (reference : Reference) :
    Follows Nothing (canonical reference) (Pool.intern reference.entity)
      fun held pooled handle => Stands held pooled handle reference.entity := by
  induction reference with
  | own place noun => exact follows_canonical_of_intern _ (follows_enter_own noun)
  | part place noun whole ih =>
      apply follows_canonical_of_intern
      exact ih.bind fun owner ownerHandle => follows_enter_part noun owner ownerHandle whole.entity

theorem follows_intern (noun : Noun) (whole : Option Reference) :
    Follows Nothing (intern noun whole) (Pool.intern (.ofNoun noun (whole.map Reference.entity)))
      fun held pooled handle =>
        Stands held pooled handle (.ofNoun noun (whole.map Reference.entity)) := by
  cases whole with
  | none => exact follows_enter_own noun
  | some whole =>
      exact (follows_canonical_intern whole).bind fun owner ownerHandle =>
        follows_enter_part noun owner ownerHandle whole.entity

theorem follows_canonical (reference : Reference) :
    Follows Nothing (canonical reference) (Pool.canonical reference.entity)
      fun held pooled handle => Stands held pooled handle reference.entity := by
  intro refs pool hsound hnumbers hneeds
  cases hfind : refs.find? reference.entity with
  | some existing =>
      obtain ⟨handle, hhandle, hstands⟩ := stands_of_find? hsound hnumbers hfind
      rw [canonical_eq, hfind, Pool.canonical, hhandle]
      exact ⟨hsound, hnumbers, List.prefix_rfl, fun held hgrows => hstands.later hgrows⟩
  | none =>
      rw [Pool.canonical, hnumbers.handle?_eq_none hfind]
      exact follows_canonical_intern reference refs pool hsound hnumbers hneeds

/-! ## Requirements -/

/-- References held to some entities, one for one. -/
structure StandFor (held references : List Reference) (entities : List Entity) : Prop where
  mem : ∀ reference ∈ references, reference ∈ held
  entities : references.map Reference.entity = entities

theorem follows_canonicalAll (references : List Reference) :
    Follows Nothing (canonicalAll references)
      (Pool.canonicalAll (references.map Reference.entity))
      fun held pooled _ => StandFor held pooled (references.map Reference.entity) := by
  induction references with
  | nil => exact follows_pure fun held => ⟨by simp, rfl⟩
  | cons reference references ih =>
      apply (follows_canonical reference).next
      intro pooled _
      apply ih.next
      intro others _
      apply follows_pure
      intro held hothers hpooled
      refine ⟨List.forall_mem_cons.mpr ⟨hpooled.mem, hothers.mem⟩, ?_⟩
      rw [List.map_cons, List.map_cons, hpooled.entity, hothers.entities]

theorem follows_canonicalCondition (given : PointedCondition) :
    Follows Nothing (canonicalCondition given) (Pool.canonicalCondition given.condition)
      fun held pooled _ =>
        (∀ reference ∈ pooled.references, reference ∈ held) ∧
          pooled.condition = given.condition := by
  apply (follows_canonical given.agent).next
  intro agent _
  apply (follows_canonicalAll given.input).next
  intro input _
  apply (follows_canonicalAll given.output).next
  intro output _
  apply follows_pure
  intro held houtput hinput hagent
  constructor
  · rw [PointedCondition.references, List.forall_mem_cons, List.forall_mem_append]
    exact ⟨hagent.mem, hinput.mem, houtput.mem⟩
  · simp only [PointedCondition.condition, hagent.entity, hinput.entities, houtput.entities]

theorem follows_canonicalConditions (given : List PointedCondition) :
    Follows Nothing (canonicalConditions given)
      (Pool.canonicalConditions (given.map PointedCondition.condition))
      fun held pooled _ =>
        (∀ reference ∈ pooled.flatMap PointedCondition.references, reference ∈ held) ∧
          pooled.map PointedCondition.condition = given.map PointedCondition.condition := by
  induction given with
  | nil => exact follows_pure fun held => ⟨by simp, rfl⟩
  | cons condition conditions ih =>
      apply (follows_canonicalCondition condition).next
      intro pooled _
      apply ih.next
      intro others _
      apply follows_pure
      rintro held ⟨hothers, hsame'⟩ ⟨hpooled, hsame⟩
      rw [List.flatMap_cons, List.forall_mem_append, List.map_cons, List.map_cons, hsame, hsame']
      exact ⟨⟨hpooled, hothers⟩, rfl⟩

/-- Re-pointing a requirement changes none of its entities. -/
theorem follows_canonicalRequirement (given : PointedRequirement) :
    Follows Nothing (canonicalRequirement given)
      (Pool.canonicalRequirement given.requirement)
      fun held pooled _ =>
        (∀ reference ∈ pooled.references, reference ∈ held) ∧
          pooled.requirement = given.requirement := by
  apply (follows_canonicalCondition given.toPointedCondition).next
  intro own _
  apply (follows_canonicalConditions given.events).next
  intro events _
  apply follows_pure
  rintro held ⟨hevents, hsame'⟩ ⟨hown, hsame⟩
  rw [PointedRequirement.references, List.forall_mem_append, PointedRequirement.requirement,
    PointedRequirement.requirement, hsame, hsame']
  exact ⟨⟨hown, hevents⟩, rfl⟩

theorem PointedCondition.condition_outside (condition : Condition) :
    (PointedCondition.outside condition).condition = condition := by
  simp [PointedCondition.outside, PointedCondition.condition, Function.comp_def, entity_outside]

theorem PointedRequirement.requirement_outside (requirement : Requirement) :
    (PointedRequirement.outside requirement).requirement = requirement := by
  simp [PointedRequirement.outside, PointedRequirement.requirement, Function.comp_def,
    PointedCondition.condition_outside]

/-! ## Model files -/

/-- The references of a reading that succeeded. -/
def handedOut (outcome : Except ModelError (List PointedRequirement)) : List Reference :=
  match outcome with
  | .error _ => []
  | .ok requirements => requirements.flatMap PointedRequirement.references

theorem forall_mem_handedOut {held : List Reference} {pointed : PointedRequirement}
    {rest : Except ModelError (List PointedRequirement)}
    (hpointed : ∀ reference ∈ pointed.references, reference ∈ held)
    (hrest : ∀ reference ∈ handedOut rest, reference ∈ held) :
    ∀ reference ∈ handedOut (rest.map (pointed :: ·)), reference ∈ held := by
  cases rest with
  | error error => exact hrest
  | ok others =>
      have hall : ∀ reference ∈ handedOut (.ok (pointed :: others)), reference ∈ held := by
        rw [handedOut, List.flatMap_cons, List.forall_mem_append]
        exact ⟨hpointed, hrest⟩
      exact hall

/-- Reading lines and re-pointing what is read goes along with reading lines. -/
theorem follows_readLines (texts : List (List Char)) (line count : Nat) :
    Follows Nothing (readLines line count texts) (Model.readLines line count texts)
      fun held pointed outcome =>
        (∀ reference ∈ handedOut pointed, reference ∈ held) ∧
          pointed.map (List.map PointedRequirement.requirement) = outcome := by
  induction texts generalizing line count with
  | nil => exact follows_pure fun held => ⟨by simp [handedOut], rfl⟩
  | cons text texts ih =>
      cases htuple : Model.isTupleLine (Text.trimEnd text) with
      | false =>
          have hpool : Model.readLines line count (text :: texts) =
              Model.readLines (line + 1) count texts :=
            funext fun pool => Model.readLines_cons_of_short htuple
          rw [readLines_cons_of_short htuple, hpool]
          exact ih (line + 1) count
      | true =>
          cases hline : Model.readLine count (Text.trimEnd text) with
          | error cause =>
              have hpool : Model.readLines line count (text :: texts) =
                  (pure (.error ⟨line, cause⟩) : StateM Pool _) :=
                funext fun pool => Model.readLines_cons_of_error htuple hline
              rw [readLines_cons_of_error htuple hline, hpool]
              exact follows_pure fun held => ⟨by simp [handedOut], rfl⟩
          | ok requirement =>
              have hpool : Model.readLines line count (text :: texts) =
                  ((Pool.canonicalRequirement requirement : StateM Pool _) >>= fun _ =>
                    (Model.readLines (line + 1) (count + 1) texts : StateM Pool _) >>= fun rest =>
                      pure (rest.map (requirement :: ·))) :=
                funext fun pool => Model.readLines_cons_of_ok htuple hline
              have hrequirement := follows_canonicalRequirement (.outside requirement)
              rw [PointedRequirement.requirement_outside] at hrequirement
              rw [readLines_cons_of_ok htuple hline, hpool]
              apply hrequirement.next
              intro pointed _
              apply (ih (line + 1) (count + 1)).next
              intro rest outcome
              apply follows_pure
              rintro held ⟨hrest, rfl⟩ ⟨hpointed, hsame⟩
              refine ⟨forall_mem_handedOut hpointed hrest, ?_⟩
              rw [← hsame]
              cases rest <;> rfl

end ReferencePool

end ReqConflict
