import ReqConflict.Proofs.Pool.Sound

/-!
# References and handles

Numbering its allocations turns a pool of references into a pool of handles.
The two pools find the same entities, list the same parts, and stay together:
pooling at references and pooling the entities there lead to pools that are
numbered alike again.
-/

namespace ReqConflict

open Reference

variable {refs : ReferencePool} {pool : Pool} {reference existing : Reference} {entity : Entity}
  {noun : Noun} {handle : Handle} {α β γ δ : Type}

namespace Pool

theorem getElem?_parts_append (pool : Pool) (entity : Entity) (owner : Option Handle)
    (number : Nat) :
    (pool.append entity owner).parts[number]? =
      if number = pool.parts.size then some #[]
      else pool.parts[number]?.map fun handles =>
        if owner = some number then handles.push pool.size else handles := by
  cases owner with
  | none => simp [Pool.append, Array.getElem?_push]
  | some owner =>
      simp only [Pool.append, Array.getElem?_push, Array.size_modify, Array.getElem?_modify,
        Option.some.injEq]
      split
      · rfl
      · by_cases howner : owner = number
        · simp [howner]
        · simp [howner]

end Pool

namespace ReferencePool

/-- The handles of a pool are the numbers of the references. -/
structure Numbers (refs : ReferencePool) (pool : Pool) : Prop where
  entities : pool.entities.toList = refs.held.map Reference.entity
  size : pool.parts.size = refs.held.length
  parts : ∀ (number : Nat) (reference : Reference), refs.held[number]? = some reference →
    ∃ handles, pool.parts[number]? = some handles ∧
      handles.toList.map Allocation.pooled =
        (refs.partsOf reference.entity).map Reference.place

theorem numbers_empty : empty.Numbers Pool.empty where
  entities := rfl
  size := rfl
  parts := by simp [empty]

theorem Numbers.size_eq (hnumbers : refs.Numbers pool) : pool.size = refs.held.length := by
  rw [Pool.size, ← Array.length_toList, hnumbers.entities, List.length_map]

theorem Numbers.get? (hnumbers : refs.Numbers pool) (handle : Handle) :
    pool.get? handle = refs.held[handle]?.map Reference.entity := by
  rw [Pool.get?, ← Array.getElem?_toList, hnumbers.entities, List.getElem?_map]

theorem Numbers.handle?_eq_none (hnumbers : refs.Numbers pool) (hfind : refs.find? entity = none) :
    pool.handle? entity = none := by
  cases hhandle : pool.handle? entity with
  | none => rfl
  | some handle =>
      have hget := Pool.get?_of_handle? hhandle
      rw [hnumbers.get?] at hget
      obtain ⟨reference, hreference, heq⟩ := Option.map_eq_some_iff.mp hget
      have hmem := List.mem_map_of_mem (f := Reference.entity) (List.mem_of_getElem? hreference)
      exact absurd (heq ▸ hmem) (not_mem_of_find? hfind)

theorem Numbers.handle?_eq_some (hnumbers : refs.Numbers pool) (hsound : refs.Sound)
    (hfind : refs.find? entity = some reference) :
    ∃ handle, pool.handle? entity = some handle ∧ refs.held[handle]? = some reference := by
  obtain ⟨hreference, heq⟩ := mem_of_find? hfind
  obtain ⟨number, hnumber⟩ := List.mem_iff_getElem?.mp hreference
  have hget : pool.get? number = some entity := by
    rw [hnumbers.get?, hnumber, Option.map_some, heq]
  obtain ⟨handle, hhandle⟩ := Pool.exists_handle?_of_get? hget
  have hknown := Pool.get?_of_handle? hhandle
  rw [hnumbers.get?] at hknown
  obtain ⟨known, hheld, hentity⟩ := Option.map_eq_some_iff.mp hknown
  have hsame : known = reference :=
    hsound.eq_of_entity_eq (List.mem_of_getElem? hheld) hreference (hentity.trans heq.symm)
  exact ⟨handle, hhandle, hsame ▸ hheld⟩

/-- The two pools know the same entities, under the same numbers. -/
theorem Numbers.handle?_map (hnumbers : refs.Numbers pool) (hsound : refs.Sound)
    (entity : Entity) :
    (pool.handle? entity).map Allocation.pooled = (refs.find? entity).map Reference.place := by
  cases hfind : refs.find? entity with
  | none => rw [hnumbers.handle?_eq_none hfind, Option.map_none, Option.map_none]
  | some reference =>
      obtain ⟨handle, hhandle, hheld⟩ := hnumbers.handle?_eq_some hsound hfind
      rw [hhandle, Option.map_some, Option.map_some, hsound.places handle reference hheld]

/-- The two pools list the same parts, in the same order. -/
theorem Numbers.partsOf_map (hnumbers : refs.Numbers pool) (hsound : refs.Sound)
    (whole : Entity) :
    (pool.partsOf whole).map Allocation.pooled = (refs.partsOf whole).map Reference.place := by
  rw [Pool.partsOf]
  cases hfind : refs.find? whole with
  | none =>
      rw [hnumbers.handle?_eq_none hfind, hsound.partsOf_eq_nil hfind]
      rfl
  | some reference =>
      obtain ⟨handle, hhandle, hheld⟩ := hnumbers.handle?_eq_some hsound hfind
      obtain ⟨handles, hparts, hplaces⟩ := hnumbers.parts handle reference hheld
      simp only [hhandle, hparts, Option.getD_some]
      rw [hplaces, (mem_of_find? hfind).2]

theorem isPartOf_fresh (refs : ReferencePool) (noun : Noun) (owner : Option Reference)
    (whole : Entity) :
    isPartOf whole (refs.fresh noun owner) = (owner.map Reference.entity == some whole) := by
  rw [isPartOf, fresh, whole?_ofNoun]

theorem partsOf_allocate_self (hsound : refs.Sound) {owner : Option Reference}
    (howner : ∀ whole ∈ owner, whole ∈ refs.held)
    (hfind : refs.find? (.ofNoun noun (owner.map Reference.entity)) = none) :
    (refs.allocate noun owner).partsOf (.ofNoun noun (owner.map Reference.entity)) = [] := by
  have hnot : isPartOf (.ofNoun noun (owner.map Reference.entity)) (refs.fresh noun owner) =
      false := by
    rw [isPartOf_fresh, beq_eq_false_iff_ne]
    intro heq
    obtain ⟨whole, hwhole, hentity⟩ := Option.map_eq_some_iff.mp heq
    have hmem := List.mem_map_of_mem (f := Reference.entity) (howner whole hwhole)
    exact not_mem_of_find? hfind (hentity ▸ hmem)
  rw [partsOf_allocate, hsound.partsOf_eq_nil hfind, List.filter_singleton, hnot]
  rfl

/-- A reference is a part of what is held at a number if and only if that is the number of its
owner. -/
theorem isPartOf_fresh_iff (hsound : refs.Sound) (noun : Noun) {owner : Option Reference}
    {ownerHandle : Option Handle} (howner : ∀ whole ∈ owner, whole ∈ refs.held)
    (hplace : owner.map Reference.place = ownerHandle.map Allocation.pooled) {number : Nat}
    (hreference : refs.held[number]? = some reference) :
    isPartOf reference.entity (refs.fresh noun owner) = true ↔ ownerHandle = some number := by
  rw [isPartOf_fresh, beq_iff_eq]
  have hnumber := hsound.places number reference hreference
  cases owner with
  | none =>
      cases ownerHandle with
      | none => simp
      | some handle => cases hplace
  | some whole =>
      cases ownerHandle with
      | none => cases hplace
      | some handle =>
          have hhandle : whole.place = .pooled handle := Option.some.inj hplace
          have hsame := hsound.place_eq_iff (howner whole rfl) (List.mem_of_getElem? hreference)
          rw [Option.map_some, Option.some.injEq, Option.some.injEq, ← hsame, hhandle, hnumber,
            Allocation.pooled.injEq]

theorem Numbers.append (hnumbers : refs.Numbers pool) (hsound : refs.Sound)
    {owner : Option Reference} {ownerHandle : Option Handle}
    (howner : ∀ whole ∈ owner, whole ∈ refs.held)
    (hplace : owner.map Reference.place = ownerHandle.map Allocation.pooled)
    (hfind : refs.find? (.ofNoun noun (owner.map Reference.entity)) = none) :
    (refs.allocate noun owner).Numbers
      (pool.append (.ofNoun noun (owner.map Reference.entity)) ownerHandle) where
  entities := by
    rw [held_allocate, List.map_append, List.map_singleton, entity_fresh, ← hnumbers.entities]
    exact Array.toList_push
  size := by
    rw [held_allocate, List.length_append, List.length_singleton, ← hnumbers.size]
    cases ownerHandle with
    | none => exact Array.size_push _
    | some ownerHandle => simp only [Pool.append, Array.size_push, Array.size_modify]
  parts := by
    intro number reference hreference
    rw [held_allocate, List.getElem?_append] at hreference
    rw [Pool.getElem?_parts_append, hnumbers.size]
    split at hreference
    · rename_i hlt
      -- the new reference joins the parts of this one if this one is its owner
      obtain ⟨handles, hhandles, hplaces⟩ := hnumbers.parts number reference hreference
      refine ⟨_, by rw [if_neg (Nat.ne_of_lt hlt), hhandles, Option.map_some], ?_⟩
      have hpart := isPartOf_fresh_iff hsound noun howner hplace hreference
      rw [partsOf_allocate, List.map_append, ← hplaces, List.filter_singleton]
      by_cases hnumber : ownerHandle = some number
      · rw [if_pos hnumber, hpart.mpr hnumber, Array.toList_push, List.map_append,
          hnumbers.size_eq]
        simp [fresh, place_ofNoun]
      · rw [if_neg hnumber, Bool.eq_false_iff.mpr (mt hpart.mp hnumber)]
        simp
    · rename_i hge
      rw [List.getElem?_singleton] at hreference
      split at hreference
      · cases hreference
        have hnumber : number = refs.held.length := by omega
        refine ⟨#[], by rw [if_pos hnumber], ?_⟩
        rw [entity_fresh, partsOf_allocate_self hsound howner hfind]
        rfl
      · cases hreference

end ReferencePool

end ReqConflict
