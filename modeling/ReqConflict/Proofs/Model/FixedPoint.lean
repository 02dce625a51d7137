import Mathlib.Data.Prod.Basic
import ReqConflict.Proofs.Model.RoundTrip

/-!
# Reading a written model again

Whatever a model file looks like, the requirements that are read from it can be
written: they are legible, no string has a line feed in it, and their ids count
from one.  Their entities have handles in the pool from then on.  So reading
what is written yields the same requirements and pools nothing new.
-/

namespace ReqConflict

open Text

namespace Model

variable {line count : Nat} {text : List Char} {texts : List (List Char)} {pool pool' : Pool}
  {requirement : Requirement} {requirements : List Requirement}

/-- The requirement can be written, and the pool holds its entities. -/
structure IsSettled (pool : Pool) (requirement : Requirement) : Prop where
  legible : requirement.IsLegible
  unbroken : requirement.IsUnbroken
  handles : ∃ handles : RequirementHandles, handles.Of pool requirement

/-- A line that does not stop the reading is skipped, or a requirement is read from it. -/
theorem readLines_cons_ok
    (hread : readLines line count (text :: texts) pool = (.ok requirements, pool')) :
    readLines (line + 1) count texts pool = (.ok requirements, pool') ∨
      ∃ requirement others, readLine count (trimEnd text) = .ok requirement ∧
        requirements = requirement :: others ∧
        readLines (line + 1) (count + 1) texts (Pool.canonicalRequirement requirement pool).2 =
          (.ok others, pool') := by
  cases htuple : isTupleLine (trimEnd text) with
  | false =>
      rw [readLines_cons_of_short htuple] at hread
      exact Or.inl hread
  | true =>
      cases hline : readLine count (trimEnd text) with
      | error cause =>
          rw [readLines_cons_of_error htuple hline] at hread
          cases hread
      | ok requirement =>
          rw [readLines_cons_of_ok htuple hline] at hread
          cases hothers : readLines (line + 1) (count + 1) texts
              (Pool.canonicalRequirement requirement pool).2 with
          | mk outcome after =>
              rw [hothers] at hread
              cases outcome with
              | error cause => cases hread
              | ok others =>
                  cases hread
                  exact Or.inr ⟨requirement, others, rfl, rfl, hothers⟩

theorem isUnbroken_of_readLine (htext : '\n' ∉ text)
    (hread : readLine count (trimEnd text) = .ok requirement) : requirement.IsUnbroken := by
  obtain ⟨hspells, _⟩ := readLine_ok hread
  intro string hstring hbreak
  have hmem := hspells.break_iff.mpr ⟨string, hstring, hbreak⟩
  exact htext (mem_of_mem_trimEnd (mem_of_mem_trim hmem))

/-- What a run over lines establishes, provided that it succeeds. -/
theorem readLines_ok (htexts : ∀ text ∈ texts, '\n' ∉ text)
    (hread : readLines line count texts pool = (.ok requirements, pool')) :
    pool.Extends pool' ∧ Numbered count requirements ∧
      ∀ requirement ∈ requirements, IsSettled pool' requirement := by
  induction texts generalizing line count pool requirements with
  | nil =>
      cases hread
      exact ⟨Pool.Extends.refl _, rfl, by simp⟩
  | cons text texts ih =>
      obtain ⟨htext, htexts⟩ := List.forall_mem_cons.mp htexts
      rcases readLines_cons_ok hread with hskipped | ⟨requirement, others, hline, rfl, hothers⟩
      · exact ih htexts hskipped
      · obtain ⟨_, hlegible, hid⟩ := readLine_ok hline
        obtain ⟨hextends, hhandles⟩ := Pool.pools_canonicalRequirement requirement pool
        obtain ⟨hextends', hnumbered, hsettled⟩ := ih htexts hothers
        -- the handles stay right, as the pool only grows while the other lines are read
        have hrequirement : IsSettled pool' requirement :=
          ⟨hlegible, isUnbroken_of_readLine htext hline, _, hhandles pool' hextends'⟩
        exact ⟨hextends.trans hextends', numbered_cons_iff.mpr ⟨hid, hnumbered⟩,
          List.forall_mem_cons.mpr ⟨hrequirement, hsettled⟩⟩

theorem pooled_of_isSettled (hsettled : ∀ requirement ∈ requirements, IsSettled pool requirement) :
    pooled requirements pool = pool := by
  induction requirements with
  | nil => rfl
  | cons requirement requirements ih =>
      obtain ⟨hrequirement, hothers⟩ := List.forall_mem_cons.mp hsettled
      obtain ⟨handles, hof⟩ := hrequirement.handles
      have hkeeps : (Pool.canonicalRequirement requirement pool).2 = pool :=
        Pool.keeps_canonicalRequirement hof
      rw [pooled, List.foldl_cons, hkeeps]
      exact ih hothers

/-- A written model is a fixed point.  The requirements that were read from any file whatever are
read again from the file that they are written to; the pool stays as it is, and writing them once
more yields that file. -/
theorem read_render_of_read {text : String} (hread : read text pool = (.ok requirements, pool')) :
    ∃ again, read (render requirements) pool' = (.ok again, pool') ∧ again = requirements ∧
      again.map (fun requirement => requirement.id.toNat) = List.range' 1 again.length ∧
      render again = render requirements := by
  have htexts : ∀ line ∈ lines text.toList, '\n' ∉ line := fun line hline =>
    not_mem_of_mem_lines hline
  obtain ⟨_, hnumbered, hsettled⟩ := readLines_ok htexts hread
  have hlegible : ∀ requirement ∈ requirements, requirement.IsLegible :=
    fun requirement hmem => (hsettled requirement hmem).legible
  have hunbroken : ∀ requirement ∈ requirements, requirement.IsUnbroken :=
    fun requirement hmem => (hsettled requirement hmem).unbroken
  have hagain := read_render_of_isUnbroken hlegible hunbroken hnumbered pool'
  rw [pooled_of_isSettled hsettled] at hagain
  exact ⟨requirements, hagain, rfl, hnumbered, rfl⟩

/-- A file with a separator, an id and a group with zeros in front, escapes that are not needed,
a modifier twice, and blanks at the end of the line. -/
def gateText : String :=
  "-----\n(07) , (03) , (*always*) , (\\guard) , (open) , ([old][big][old]gate) , " ++
    "(*void*) , (9\\, 10) \r\n"

def gate : Requirement :=
  { id := 1, group := 3, events := [], agent := .own ⟨"guard", .empty, false⟩,
    operation := ⟨"open", false, false⟩,
    input := [.own ⟨"gate", .ofList ["big", "old"], false⟩], output := [],
    restriction := ["9, 10"] }

theorem read_render_of_read_gateText :
    (read gateText Pool.empty).1 = .ok [gate] ∧
      ∃ again,
        read (render [gate]) (read gateText Pool.empty).2 =
            (.ok again, (read gateText Pool.empty).2) ∧
          again = [gate] ∧
          again.map (fun requirement => requirement.id.toNat) = List.range' 1 again.length ∧
          render again = render [gate] := by
  have hread : (read gateText Pool.empty).1 = .ok [gate] := by decide +kernel
  exact ⟨hread, read_render_of_read (Prod.fst_eq_iff.mp hread)⟩

end Model

end ReqConflict
