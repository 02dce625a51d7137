import Mathlib.Data.List.Basic
import ReqConflict.Interlock.Cycle

/-!
# Merging cycles

Cycles are merged one after the other into those accepted so far.  Whatever
the order, each accepted cycle is one of those merged, each merged cycle is
contained in an accepted one, and no accepted cycle is contained in another.
-/

namespace ReqConflict.InterlockGraph

/-- Neither of two cycles is contained in the other. -/
def Incomparable (cycle other : List Nat) : Prop :=
  ¬ cycle ⊆ other ∧ ¬ other ⊆ cycle

variable {accepted found : List (List Nat)} {cycle candidate : List Nat}

theorem isWithin_iff_subset {other : List Nat} :
    isWithin cycle other = true ↔ cycle ⊆ other :=
  isWithin_iff

theorem merge_of_subset (hcycle : cycle ∈ accepted) (hsub : candidate ⊆ cycle) :
    merge accepted candidate = accepted := by
  have hany : accepted.any (isWithin candidate) = true :=
    List.any_eq_true.mpr ⟨cycle, hcycle, isWithin_iff_subset.mpr hsub⟩
  rw [merge, if_pos hany]

theorem merge_of_not_subset (hnew : ∀ cycle ∈ accepted, ¬ candidate ⊆ cycle) :
    merge accepted candidate =
      (accepted.filter fun cycle => !isWithin cycle candidate) ++ [candidate] := by
  have hany : accepted.any (isWithin candidate) = false := by
    rw [List.any_eq_false]
    intro cycle hcycle hwithin
    exact hnew cycle hcycle (isWithin_iff_subset.mp hwithin)
  rw [merge, hany]
  rfl

theorem mem_merge (hmem : cycle ∈ merge accepted candidate) :
    cycle ∈ accepted ∨ cycle = candidate := by
  unfold merge at hmem
  split at hmem
  · exact Or.inl hmem
  · rcases List.mem_append.mp hmem with hold | hnew
    · exact Or.inl (List.mem_of_mem_filter hold)
    · exact Or.inr (List.mem_singleton.mp hnew)

theorem exists_superset_merge (hmem : cycle ∈ accepted ∨ cycle = candidate) :
    ∃ larger ∈ merge accepted candidate, cycle ⊆ larger := by
  by_cases hold : ∃ other ∈ accepted, candidate ⊆ other
  · obtain ⟨other, hother, hsub⟩ := hold
    rw [merge_of_subset hother hsub]
    rcases hmem with hmem | rfl
    · exact ⟨cycle, hmem, List.Subset.refl cycle⟩
    · exact ⟨other, hother, hsub⟩
  · have hnew : ∀ other ∈ accepted, ¬ candidate ⊆ other :=
      fun other hother hsub => hold ⟨other, hother, hsub⟩
    rw [merge_of_not_subset hnew]
    by_cases hsub : cycle ⊆ candidate
    · exact ⟨candidate, List.mem_append_right _ (List.mem_singleton_self _), hsub⟩
    · rcases hmem with hmem | rfl
      · have hwithin : isWithin cycle candidate = false := by
          rw [Bool.eq_false_iff]
          intro hwithin
          exact hsub (isWithin_iff_subset.mp hwithin)
        have hkept : cycle ∈ accepted.filter fun cycle => !isWithin cycle candidate := by
          rw [List.mem_filter, hwithin]
          exact ⟨hmem, rfl⟩
        exact ⟨cycle, List.mem_append_left _ hkept, List.Subset.refl cycle⟩
      · exact absurd (List.Subset.refl cycle) hsub

theorem pairwise_merge (hpairwise : accepted.Pairwise Incomparable) :
    (merge accepted candidate).Pairwise Incomparable := by
  by_cases hold : ∃ other ∈ accepted, candidate ⊆ other
  · obtain ⟨other, hother, hsub⟩ := hold
    rwa [merge_of_subset hother hsub]
  · have hnew : ∀ other ∈ accepted, ¬ candidate ⊆ other :=
      fun other hother hsub => hold ⟨other, hother, hsub⟩
    rw [merge_of_not_subset hnew]
    refine List.pairwise_append.mpr
      ⟨hpairwise.filter _, List.pairwise_singleton _ _, ?_⟩
    intro kept hkept last hlast
    obtain ⟨haccepted, hwithin⟩ := List.mem_filter.mp hkept
    rw [List.mem_singleton.mp hlast]
    refine ⟨fun hsub => ?_, hnew kept haccepted⟩
    rw [isWithin_iff_subset.mpr hsub] at hwithin
    cases hwithin

theorem mem_foldl_merge (hmem : cycle ∈ found.foldl merge accepted) :
    cycle ∈ accepted ∨ cycle ∈ found := by
  induction found generalizing accepted with
  | nil => exact Or.inl hmem
  | cons candidate found ih =>
      rcases ih hmem with hmerge | hfound
      · rcases mem_merge hmerge with hold | rfl
        · exact Or.inl hold
        · exact Or.inr List.mem_cons_self
      · exact Or.inr (List.mem_cons_of_mem candidate hfound)

theorem exists_superset_foldl_merge (hmem : cycle ∈ accepted ∨ cycle ∈ found) :
    ∃ larger ∈ found.foldl merge accepted, cycle ⊆ larger := by
  induction found generalizing accepted cycle with
  | nil => exact ⟨cycle, by simpa using hmem, List.Subset.refl cycle⟩
  | cons candidate found ih =>
      by_cases hfound : cycle ∈ found
      · exact ih (Or.inr hfound)
      · have hmerged : cycle ∈ accepted ∨ cycle = candidate := by
          rcases hmem with hold | hmem
          · exact Or.inl hold
          · exact Or.inr ((List.mem_cons.mp hmem).resolve_right hfound)
        obtain ⟨between, hbetween, hsub⟩ := exists_superset_merge hmerged
        obtain ⟨larger, hlarger, hsub'⟩ := ih (Or.inl hbetween)
        exact ⟨larger, hlarger, List.Subset.trans hsub hsub'⟩

theorem pairwise_foldl_merge (hpairwise : accepted.Pairwise Incomparable) :
    (found.foldl merge accepted).Pairwise Incomparable := by
  induction found generalizing accepted with
  | nil => exact hpairwise
  | cons candidate found ih => exact ih (pairwise_merge hpairwise)

end ReqConflict.InterlockGraph
