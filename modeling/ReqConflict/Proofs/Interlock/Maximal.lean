import Mathlib.Data.List.Pairwise
import ReqConflict.Proofs.Interlock.Merge

/-!
# Merging keeps the maximal cycles

A cycle is its set of nodes, written in ascending order.  Of all cycles that
are merged, those are left in the end that no other one properly contains, each
of them once.  A cycle that was dropped because of one that is dropped itself
is contained in a third one, so neither matters for what is left, and neither
does the order in which the cycles were found.
-/

namespace ReqConflict.InterlockGraph

variable {found : List (List Nat)} {cycle other : List Nat}

/-- All nodes of a cycle are nodes of another one, which has more. -/
def IsProperlyWithin (cycle other : List Nat) : Prop :=
  cycle ⊆ other ∧ ¬other ⊆ cycle

instance : Decidable (IsProperlyWithin cycle other) :=
  inferInstanceAs (Decidable (_ ∧ _))

instance : Std.Symm Incomparable :=
  ⟨fun _ _ hincomparable => ⟨hincomparable.2, hincomparable.1⟩⟩

theorem Incomparable.ne (hincomparable : Incomparable cycle other) : cycle ≠ other :=
  fun heq => hincomparable.1 (heq ▸ List.Subset.refl cycle)

/-- Equal sets of nodes are equal lists. -/
theorem eq_of_subset_of_subset (hcycle : cycle.Pairwise (· < ·)) (hother : other.Pairwise (· < ·))
    (hsub : cycle ⊆ other) (hsup : other ⊆ cycle) : cycle = other := by
  have hperm : cycle.Perm other :=
    (List.perm_ext_iff_of_nodup (hcycle.imp Nat.ne_of_lt) (hother.imp Nat.ne_of_lt)).mpr
      fun _ => ⟨fun hn => hsub hn, fun hn => hsup hn⟩
  exact hperm.eq_of_pairwise (fun _ _ _ _ hlt hgt => absurd hlt (Nat.lt_asymm hgt)) hcycle hother

theorem nodup_foldl_merge : (found.foldl merge []).Nodup :=
  (pairwise_foldl_merge List.Pairwise.nil).imp Incomparable.ne

theorem mem_of_mem_foldl_merge (hcycle : cycle ∈ found.foldl merge []) : cycle ∈ found :=
  (mem_foldl_merge hcycle).resolve_left List.not_mem_nil

theorem exists_superset_of_mem (hcycle : cycle ∈ found) :
    ∃ larger ∈ found.foldl merge [], cycle ⊆ larger :=
  exists_superset_foldl_merge (Or.inr hcycle)

/-- An accepted cycle is properly contained in no cycle that was merged: that one would be
contained in an accepted one. -/
theorem not_isProperlyWithin_of_mem_foldl_merge (hcycle : cycle ∈ found.foldl merge [])
    (hother : other ∈ found) : ¬IsProperlyWithin cycle other := by
  rintro ⟨hsub, hproper⟩
  obtain ⟨larger, hlarger, hwithin⟩ := exists_superset_of_mem hother
  by_cases heq : cycle = larger
  · exact hproper (heq ▸ hwithin)
  · have hpairwise : (found.foldl merge []).Pairwise Incomparable :=
      pairwise_foldl_merge List.Pairwise.nil
    have hincomparable : Incomparable cycle larger :=
      hpairwise.forall hcycle hlarger heq
    exact hincomparable.1 (List.Subset.trans hsub hwithin)

/-- A merged cycle that is properly contained in no other is itself the accepted one that it is
contained in. -/
theorem mem_foldl_merge_of_maximal (hfound : ∀ cycle ∈ found, cycle.Pairwise (· < ·))
    (hcycle : cycle ∈ found) (hmaximal : ¬∃ other ∈ found, IsProperlyWithin cycle other) :
    cycle ∈ found.foldl merge [] := by
  obtain ⟨larger, hlarger, hsub⟩ := exists_superset_of_mem hcycle
  have hmem : larger ∈ found := mem_of_mem_foldl_merge hlarger
  have hsup : larger ⊆ cycle := by
    by_contra hproper
    exact hmaximal ⟨larger, hmem, hsub, hproper⟩
  exact eq_of_subset_of_subset (hfound cycle hcycle) (hfound larger hmem) hsub hsup ▸ hlarger

theorem mem_foldl_merge_iff (hfound : ∀ cycle ∈ found, cycle.Pairwise (· < ·)) :
    cycle ∈ found.foldl merge [] ↔
      cycle ∈ found ∧ ¬∃ other ∈ found, IsProperlyWithin cycle other := by
  constructor
  · intro hcycle
    refine ⟨mem_of_mem_foldl_merge hcycle, ?_⟩
    rintro ⟨other, hother, hwithin⟩
    exact not_isProperlyWithin_of_mem_foldl_merge hcycle hother hwithin
  · rintro ⟨hcycle, hmaximal⟩
    exact mem_foldl_merge_of_maximal hfound hcycle hmaximal

/-- Merging cycles into an empty list leaves exactly the maximal ones, each of them once, and so
the same ones in whatever order they are merged. -/
theorem foldl_merge_maximal (hfound : ∀ cycle ∈ found, cycle.Pairwise (· < ·)) :
    (found.foldl merge []).Nodup ∧
      (∀ cycle, cycle ∈ found.foldl merge [] ↔
        cycle ∈ found ∧ ¬∃ other ∈ found, IsProperlyWithin cycle other) ∧
      ∀ others : List (List Nat), others.Perm found →
        (others.foldl merge []).Perm (found.foldl merge []) := by
  refine ⟨nodup_foldl_merge, fun _ => mem_foldl_merge_iff hfound, ?_⟩
  intro others hperm
  have hothers : ∀ cycle ∈ others, cycle.Pairwise (· < ·) :=
    fun cycle hcycle => hfound cycle (hperm.mem_iff.mp hcycle)
  refine (List.perm_ext_iff_of_nodup nodup_foldl_merge nodup_foldl_merge).mpr fun cycle => ?_
  rw [mem_foldl_merge_iff hothers, mem_foldl_merge_iff hfound]
  simp only [hperm.mem_iff]

/-- The first cycle is replaced by the second, which is replaced by the third; the fourth is
accepted, and the last is dropped. -/
theorem foldl_merge_maximal_nested :
    let found := [[0, 1], [0, 1, 2], [0, 1, 2, 5], [1, 3], [0, 2]]
    (∀ cycle ∈ found, cycle.Pairwise (· < ·)) ∧
      [1, 3] ∈ found.foldl merge [] ∧ [0, 1, 2] ∉ found.foldl merge [] ∧
      (found.reverse.foldl merge []).Perm (found.foldl merge []) := by
  intro found
  have hfound : ∀ cycle ∈ found, cycle.Pairwise (· < ·) := by decide
  obtain ⟨_, hmem, hperm⟩ := foldl_merge_maximal hfound
  refine ⟨hfound, (hmem [1, 3]).mpr ⟨by decide, by decide⟩, ?_, hperm _ found.reverse_perm⟩
  intro haccepted
  exact ((hmem [0, 1, 2]).mp haccepted).2 ⟨[0, 1, 2, 5], by decide, by decide⟩

end ReqConflict.InterlockGraph
