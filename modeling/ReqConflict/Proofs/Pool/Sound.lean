import Mathlib.Data.List.Nodup
import ReqConflict.Proofs.Pool.Known
import ReqConflict.Proofs.Pool.Reference

/-!
# The invariant of the pool

A sound pool holds one reference for each of its entities, numbered in order;
it holds the owners of what it holds; and its index of parts lists, for every
entity, the references held to what the entity owns.  Entering an entity whose
owner is held keeps all this.
-/

namespace ReqConflict.ReferencePool

open Reference

/-- All references of an index are held. -/
def IndexIn (held : List Reference) (parts : List (Reference × List Reference)) : Prop :=
  ∀ entry ∈ parts, entry.1 ∈ held ∧ ∀ part ∈ entry.2, part ∈ held

structure Sound (pool : ReferencePool) : Prop where
  places : ∀ (number : Nat) (reference : Reference),
    pool.held[number]? = some reference → reference.place = .pooled number
  distinct : (pool.held.map Reference.entity).Nodup
  owners : ∀ reference ∈ pool.held, ∀ owner ∈ reference.whole?, owner ∈ pool.held
  parts : ∀ whole, pool.partsOf whole = pool.held.filter (isPartOf whole)
  index : IndexIn pool.held pool.parts

variable {pool : ReferencePool} {reference other existing : Reference} {entity : Entity}
  {noun : Noun} {owner : Option Reference}

theorem sound_empty : empty.Sound where
  places := by simp [empty]
  distinct := List.nodup_nil
  owners := by simp [empty]
  parts := by
    intro whole
    rfl
  index := by simp [empty, IndexIn]

theorem mem_of_find? (hfind : pool.find? entity = some reference) :
    reference ∈ pool.held ∧ reference.entity = entity := by
  have hsome := List.find?_some hfind
  exact ⟨List.mem_of_find?_eq_some hfind, by simpa using hsome⟩

theorem not_mem_of_find? (hfind : pool.find? entity = none) :
    entity ∉ pool.held.map Reference.entity := by
  intro hmem
  obtain ⟨reference, hreference, heq⟩ := List.mem_map.mp hmem
  exact List.find?_eq_none.mp hfind reference hreference (by simp [heq])

theorem Sound.eq_of_entity_eq (hsound : pool.Sound) (hreference : reference ∈ pool.held)
    (hother : other ∈ pool.held) (heq : reference.entity = other.entity) : reference = other :=
  List.inj_on_of_nodup_map hsound.distinct hreference hother heq

theorem Sound.find?_of_mem (hsound : pool.Sound) (hreference : reference ∈ pool.held) :
    pool.find? reference.entity = some reference := by
  cases hfind : pool.find? reference.entity with
  | none => exact absurd (List.mem_map_of_mem hreference) (not_mem_of_find? hfind)
  | some existing =>
      obtain ⟨hexisting, heq⟩ := mem_of_find? hfind
      rw [hsound.eq_of_entity_eq hexisting hreference heq]

/-- References held are the same allocation if and only if they are equal. -/
theorem Sound.eq_of_place_eq (hsound : pool.Sound) (hreference : reference ∈ pool.held)
    (hother : other ∈ pool.held) (heq : reference.place = other.place) : reference = other := by
  obtain ⟨number, hnumber⟩ := List.mem_iff_getElem?.mp hreference
  obtain ⟨number', hnumber'⟩ := List.mem_iff_getElem?.mp hother
  rw [hsound.places number reference hnumber, hsound.places number' other hnumber'] at heq
  cases heq
  exact Option.some.inj (hnumber.symm.trans hnumber')

theorem Sound.place_eq_iff (hsound : pool.Sound) (hreference : reference ∈ pool.held)
    (hother : other ∈ pool.held) :
    reference.place = other.place ↔ reference.entity = other.entity := by
  constructor
  · exact fun heq => congrArg Reference.entity (hsound.eq_of_place_eq hreference hother heq)
  · exact fun heq => congrArg Reference.place (hsound.eq_of_entity_eq hreference hother heq)

/-- What the pool holds it holds all the way down. -/
theorem Sound.mem_of_mem_chain (hsound : pool.Sound) (hreference : reference ∈ pool.held) :
    ∀ owner ∈ reference.chain, owner ∈ pool.held := by
  induction reference with
  | own place noun =>
      intro owner howner
      rw [chain, List.mem_singleton] at howner
      exact howner ▸ hreference
  | part place noun whole ih =>
      intro owner howner
      rcases List.mem_cons.mp howner with rfl | howner
      · exact hreference
      · exact ih (hsound.owners _ hreference whole rfl) owner howner

theorem partsIn_addPart (owner part : Reference) (whole : Entity)
    (parts : List (Reference × List Reference)) :
    partsIn whole (addPart owner part parts) =
      if owner.entity = whole then partsIn whole parts ++ [part] else partsIn whole parts := by
  induction parts with
  | nil => simp [addPart, partsIn]
  | cons entry others ih =>
      obtain ⟨other, owned⟩ := entry
      rw [addPart]
      by_cases hsame : other.entity = owner.entity
      · rw [if_pos hsame, partsIn, partsIn, hsame]
        split <;> rfl
      · rw [if_neg hsame, partsIn, partsIn, ih]
        by_cases hother : other.entity = whole
        · have hne : owner.entity ≠ whole := fun heq => hsame (hother.trans heq.symm)
          simp [hother, hne]
        · simp [hother]

theorem IndexIn.mono {held held' : List Reference} {parts : List (Reference × List Reference)}
    (hindex : IndexIn held parts) (hsubset : held ⊆ held') : IndexIn held' parts := by
  intro entry hentry
  obtain ⟨howner, hparts⟩ := hindex entry hentry
  refine ⟨hsubset howner, ?_⟩
  intro part hpart
  exact hsubset (hparts part hpart)

theorem IndexIn.addPart {held : List Reference} {parts : List (Reference × List Reference)}
    {owner part : Reference} (hindex : IndexIn held parts) (howner : owner ∈ held)
    (hpart : part ∈ held) : IndexIn held (addPart owner part parts) := by
  induction parts with
  | nil => simp [ReferencePool.addPart, IndexIn, howner, hpart]
  | cons entry others ih =>
      obtain ⟨hentry, hothers⟩ := List.forall_mem_cons.mp hindex
      rw [ReferencePool.addPart]
      split
      · intro known hknown
        rcases List.mem_cons.mp hknown with rfl | hknown
        · refine ⟨hentry.1, fun owned hmem => ?_⟩
          rcases List.mem_append.mp hmem with hmem | hmem
          · exact hentry.2 owned hmem
          · exact List.mem_singleton.mp hmem ▸ hpart
        · exact hothers known hknown
      · intro known hknown
        rcases List.mem_cons.mp hknown with rfl | hknown
        · exact hentry
        · exact ih hothers known hknown

theorem partsOf_allocate (pool : ReferencePool) (noun : Noun) (owner : Option Reference)
    (whole : Entity) :
    (pool.allocate noun owner).partsOf whole =
      pool.partsOf whole ++ [pool.fresh noun owner].filter (isPartOf whole) := by
  cases owner with
  | none => simp [partsOf, allocate, fresh, isPartOf, Reference.ofNoun, whole?]
  | some owner =>
      simp only [partsOf, allocate, partsIn_addPart]
      by_cases howner : owner.entity = whole
      · simp [howner, isPartOf, fresh, Reference.ofNoun, whole?]
      · simp [howner, isPartOf, fresh, Reference.ofNoun, whole?]

theorem Sound.partsOf_eq_nil (hsound : pool.Sound) (hfind : pool.find? entity = none) :
    pool.partsOf entity = [] := by
  rw [hsound.parts, List.filter_eq_nil_iff]
  intro reference hreference hpart
  rw [isPartOf, beq_iff_eq] at hpart
  obtain ⟨owner, howner, heq⟩ := Option.map_eq_some_iff.mp hpart
  have hmem := List.mem_map_of_mem (f := Reference.entity) (hsound.owners reference hreference owner howner)
  exact not_mem_of_find? hfind (heq ▸ hmem)

theorem held_allocate (pool : ReferencePool) (noun : Noun) (owner : Option Reference) :
    (pool.allocate noun owner).held = pool.held ++ [pool.fresh noun owner] :=
  rfl

theorem entity_fresh (pool : ReferencePool) (noun : Noun) (owner : Option Reference) :
    (pool.fresh noun owner).entity = .ofNoun noun (owner.map Reference.entity) :=
  entity_ofNoun _ noun owner

theorem Sound.allocate (hsound : pool.Sound) (howner : ∀ whole ∈ owner, whole ∈ pool.held)
    (hfind : pool.find? (.ofNoun noun (owner.map Reference.entity)) = none) :
    (pool.allocate noun owner).Sound where
  places := by
    intro number reference hreference
    rw [held_allocate, List.getElem?_append] at hreference
    split at hreference
    · exact hsound.places number reference hreference
    · rename_i hge
      rw [List.getElem?_singleton] at hreference
      split at hreference
      · cases hreference
        have hnumber : number = pool.held.length := by omega
        rw [fresh, place_ofNoun, hnumber]
      · cases hreference
  distinct := by
    rw [held_allocate, List.map_append, List.map_singleton, entity_fresh]
    rw [← List.concat_eq_append]
    exact hsound.distinct.concat (not_mem_of_find? hfind)
  owners := by
    intro reference hreference whole hwhole
    rw [held_allocate] at hreference ⊢
    apply List.mem_append_left
    rcases List.mem_append.mp hreference with hreference | hreference
    · exact hsound.owners reference hreference whole hwhole
    · rw [List.mem_singleton.mp hreference, fresh, whole?_ofNoun] at hwhole
      exact howner whole hwhole
  parts := by
    intro whole
    rw [partsOf_allocate, held_allocate, List.filter_append, hsound.parts]
  index := by
    have hmono : IndexIn (pool.allocate noun owner).held pool.parts :=
      hsound.index.mono (List.subset_append_left _ _)
    cases owner with
    | none => exact hmono
    | some owner =>
        exact hmono.addPart (List.mem_append_left _ (howner owner rfl)) (by simp [held_allocate])

end ReqConflict.ReferencePool
