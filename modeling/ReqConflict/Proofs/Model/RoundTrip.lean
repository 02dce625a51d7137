import ReqConflict.Proofs.Model.Line
import ReqConflict.Proofs.Pool.Known

/-!
# The round trip of model files

Writing numbered, legible requirements and reading the file gives them back
unless one of them has a line feed in a string.  Then the file cannot be read,
and the error names the line of the first such requirement.  Reading is done
line by line, so the requirements in front of it are dealt with by induction.
-/

namespace ReqConflict

open Text

namespace Model

variable {requirement : Requirement} {requirements : List Requirement} {text : List Char}
  {texts : List (List Char)} {line count : Nat} {pool : Pool}

/-- The ids go up by one from the id after `count` others. -/
def Numbered (count : Nat) (requirements : List Requirement) : Prop :=
  requirements.map (fun requirement => requirement.id.toNat) =
    List.range' (count + 1) requirements.length

theorem numbered_cons_iff :
    Numbered count (requirement :: requirements) ↔
      requirement.id.toNat = count + 1 ∧ Numbered (count + 1) requirements := by
  simp [Numbered, List.range'_succ]

theorem Numbered.left {others : List Requirement}
    (hnumbered : Numbered count (requirements ++ others)) : Numbered count requirements := by
  induction requirements generalizing count with
  | nil => rfl
  | cons requirement requirements ih =>
      obtain ⟨hid, hothers⟩ := numbered_cons_iff.mp hnumbered
      exact numbered_cons_iff.mpr ⟨hid, ih hothers⟩

/-- The text of a model file. -/
def fileText (requirements : List Requirement) : List Char :=
  requirements.flatMap fun requirement => Tuple.requirement requirement ++ ['\n']

theorem fileText_cons (requirement : Requirement) (requirements : List Requirement) :
    fileText (requirement :: requirements) =
      Tuple.requirement requirement ++ '\n' :: fileText requirements := by
  rw [fileText, List.flatMap_cons, List.append_assoc]
  rfl

theorem fileText_append (requirements others : List Requirement) :
    fileText (requirements ++ others) = fileText requirements ++ fileText others :=
  List.flatMap_append

/-- The pool after the entities of some requirements are pooled. -/
def pooled (requirements : List Requirement) (pool : Pool) : Pool :=
  requirements.foldl (fun pool requirement => (Pool.canonicalRequirement requirement pool).2) pool

theorem readLines_cons_of_ok (htuple : isTupleLine (trimEnd text) = true)
    (hread : readLine count (trimEnd text) = .ok requirement) :
    readLines line count (text :: texts) pool =
      let left := readLines (line + 1) (count + 1) texts
        (Pool.canonicalRequirement requirement pool).2
      (left.1.map (requirement :: ·), left.2) := by
  rw [readLines]
  simp only [htuple, if_true, hread]
  rfl

theorem readLines_cons_of_error {cause : TupleError}
    (htuple : isTupleLine (trimEnd text) = true)
    (hread : readLine count (trimEnd text) = .error cause) :
    readLines line count (text :: texts) pool = (.error ⟨line, cause⟩, pool) := by
  rw [readLines]
  simp only [htuple, if_true, hread]

theorem readLines_cons_of_short (hshort : isTupleLine (trimEnd text) = false) :
    readLines line count (text :: texts) pool = readLines (line + 1) count texts pool := by
  rw [readLines]
  simp only [hshort]
  rfl

/-- A requirement on a line of its own is read, and reading goes on behind it. -/
theorem readLines_requirement (hlegible : requirement.IsLegible)
    (hunbroken : requirement.IsUnbroken) (hid : requirement.id.toNat = count + 1) (line : Nat)
    (rest : List Char) (pool : Pool) :
    readLines line count (lines (Tuple.requirement requirement ++ '\n' :: rest)) pool =
      let left := readLines (line + 1) (count + 1) (lines rest)
        (Pool.canonicalRequirement requirement pool).2
      (left.1.map (requirement :: ·), left.2) := by
  have hline : '\n' ∉ Tuple.requirement requirement :=
    (Tuple.not_mem_requirement_iff hlegible).mpr hunbroken
  have hread : readLine count (Tuple.requirement requirement) = .ok requirement :=
    readLine_requirement hlegible hid
  have htuple : isTupleLine (Tuple.requirement requirement) = true :=
    Tuple.trimEnd_requirement requirement ▸
      isTupleLine_of_prefix (Tuple.openingText_prefix requirement)
  rw [lines_break hline]
  apply readLines_cons_of_ok
  · rw [trimEnd_closeLine, Tuple.trimEnd_requirement, htuple]
  · rw [trimEnd_closeLine, Tuple.trimEnd_requirement, hread]

/-- A requirement that breaks its line is an error on that line. -/
theorem readLines_broken (hlegible : requirement.IsLegible)
    (hbroken : ¬requirement.IsUnbroken) (line count : Nat) (rest : List Char) (pool : Pool) :
    ∃ cause, readLines line count (lines (Tuple.requirement requirement ++ rest)) pool =
      (.error ⟨line, cause⟩, pool) := by
  have hmem : '\n' ∈ Tuple.requirement requirement :=
    not_not.mp (mt (Tuple.not_mem_requirement_iff hlegible).mp hbroken)
  obtain ⟨before, after, htext, hbefore⟩ := List.eq_append_cons_of_mem hmem
  -- the line ends inside a field, and trimming it does not close the parenthesis
  have hopen : 0 < openAfter (trimEnd before) := by
    rw [openAfter_trimEnd]
    exact (Tuple.spellsInside_requirement hlegible).breaksInside before after htext
  obtain ⟨cause, hcause⟩ := readLine_of_open hopen count
  have htuple : isTupleLine (trimEnd before) = true :=
    isTupleLine_of_prefix (openingText_prefix_of_break htext)
  refine ⟨cause, ?_⟩
  rw [htext, List.append_assoc, List.cons_append, lines_break hbefore]
  apply readLines_cons_of_error
  · rw [trimEnd_closeLine, htuple]
  · rw [trimEnd_closeLine, hcause]

/-- All requirements are read as far as their lines are whole. -/
theorem readLines_fileText (hlegible : ∀ requirement ∈ requirements, requirement.IsLegible)
    (hunbroken : ∀ requirement ∈ requirements, requirement.IsUnbroken)
    (hnumbered : Numbered count requirements) (line : Nat) (rest : List Char) (pool : Pool) :
    readLines line count (lines (fileText requirements ++ rest)) pool =
      let left := readLines (line + requirements.length) (count + requirements.length)
        (lines rest) (pooled requirements pool)
      (left.1.map (requirements ++ ·), left.2) := by
  induction requirements generalizing line count pool with
  | nil =>
      simp only [map_nil_append]
      rfl
  | cons requirement requirements ih =>
      obtain ⟨hlegible, hlegible'⟩ := List.forall_mem_cons.mp hlegible
      obtain ⟨hunbroken, hunbroken'⟩ := List.forall_mem_cons.mp hunbroken
      obtain ⟨hid, hnumbered⟩ := numbered_cons_iff.mp hnumbered
      rw [fileText_cons, List.append_assoc, List.cons_append,
        readLines_requirement hlegible hunbroken hid, ih hlegible' hunbroken' hnumbered]
      simp only [map_append_cons, List.length_cons, Nat.add_assoc, Nat.add_comm 1]
      rfl

theorem read_render (requirements : List Requirement) (pool : Pool) :
    read (render requirements) pool = readLines 1 0 (lines (fileText requirements)) pool := by
  rw [read, render, String.toList_ofList, fileText]

theorem read_render_of_isUnbroken (hlegible : ∀ requirement ∈ requirements, requirement.IsLegible)
    (hunbroken : ∀ requirement ∈ requirements, requirement.IsUnbroken)
    (hnumbered : Numbered 0 requirements) (pool : Pool) :
    read (render requirements) pool = (.ok requirements, pooled requirements pool) := by
  have hread := readLines_fileText hlegible hunbroken hnumbered 1 [] pool
  rw [List.append_nil] at hread
  rw [read_render, hread]
  exact Prod.ext (congrArg Except.ok (List.append_nil requirements)) rfl

theorem read_render_of_broken {before after : List Requirement}
    (hlegible : ∀ other ∈ before ++ requirement :: after, other.IsLegible)
    (hbefore : ∀ other ∈ before, other.IsUnbroken) (hbroken : ¬requirement.IsUnbroken)
    (hnumbered : Numbered 0 (before ++ requirement :: after)) (pool : Pool) :
    ∃ cause, (read (render (before ++ requirement :: after)) pool).1 =
      .error ⟨before.length + 1, cause⟩ := by
  have hbefore' : ∀ other ∈ before, other.IsLegible :=
    fun other hother => hlegible other (List.mem_append_left _ hother)
  have hrequirement : requirement.IsLegible := hlegible requirement (by simp)
  obtain ⟨cause, hcause⟩ := readLines_broken hrequirement hbroken (1 + before.length)
    (0 + before.length) ('\n' :: fileText after) (pooled before pool)
  refine ⟨cause, ?_⟩
  rw [read_render, fileText_append, fileText_cons,
    readLines_fileText hbefore' hbefore hnumbered.left, hcause, Nat.add_comm 1]
  rfl

/-- Writing requirements and reading the file never changes them unnoticed.  Without line feeds
they are read back.  With one, the error names the line of the first requirement that has it. -/
theorem read_render_eq_or_error (requirements : List Requirement) (pool : Pool)
    (hnumbered : requirements.map (fun requirement => requirement.id.toNat) =
      List.range' 1 requirements.length)
    (hlegible : ∀ requirement ∈ requirements, requirement.IsLegible) :
    ((∀ requirement ∈ requirements, requirement.IsUnbroken) →
        (read (render requirements) pool).1 = .ok requirements) ∧
      (∀ before requirement after, requirements = before ++ requirement :: after →
        (∀ other ∈ before, other.IsUnbroken) → ¬requirement.IsUnbroken →
          ∃ cause, (read (render requirements) pool).1 = .error ⟨before.length + 1, cause⟩) ∧
      ∀ others, (read (render requirements) pool).1 = .ok others → others = requirements := by
  have hwhole : (∀ requirement ∈ requirements, requirement.IsUnbroken) →
      (read (render requirements) pool).1 = .ok requirements :=
    fun hunbroken => congrArg Prod.fst (read_render_of_isUnbroken hlegible hunbroken hnumbered pool)
  have hbroken : ∀ before requirement after, requirements = before ++ requirement :: after →
      (∀ other ∈ before, other.IsUnbroken) → ¬requirement.IsUnbroken →
        ∃ cause, (read (render requirements) pool).1 = .error ⟨before.length + 1, cause⟩ := by
    rintro before requirement after rfl hbefore hbroken
    exact read_render_of_broken hlegible hbefore hbroken hnumbered pool
  refine ⟨hwhole, hbroken, ?_⟩
  intro others hothers
  by_cases hunbroken : ∀ requirement ∈ requirements, requirement.IsUnbroken
  · rw [hwhole hunbroken] at hothers
    exact (Except.ok.inj hothers).symm
  · obtain ⟨before, requirement, after, heq, hbefore, hfirst⟩ := exists_first_not hunbroken
    obtain ⟨cause, hcause⟩ := hbroken before requirement after heq hbefore hfirst
    rw [hcause] at hothers
    cases hothers

/-- A requirement on the door with one restriction. -/
def doorRequirement (id : UInt32) (restriction : String) : Requirement :=
  { id := id, group := 0, events := [], agent := .system,
    operation := ⟨"lock", true, false⟩, input := [.own ⟨"door", .empty, false⟩], output := [],
    restriction := [restriction] }

theorem read_render_eq_or_error_broken :
    let requirements := [doorRequirement 1 "at night", doorRequirement 2 "at\nnight"]
    requirements.map (fun requirement => requirement.id.toNat) =
        List.range' 1 requirements.length ∧
      (∀ requirement ∈ requirements, requirement.IsLegible) ∧
      ∃ cause, (read (render requirements) Pool.empty).1 = .error ⟨2, cause⟩ := by
  have hnumbered : [doorRequirement 1 "at night", doorRequirement 2 "at\nnight"].map
      (fun requirement => requirement.id.toNat) = List.range' 1 2 := by decide
  have hlegible : ∀ requirement ∈ [doorRequirement 1 "at night", doorRequirement 2 "at\nnight"],
      requirement.IsLegible := by decide
  obtain ⟨_, hbroken, _⟩ := read_render_eq_or_error _ Pool.empty hnumbered hlegible
  exact ⟨hnumbered, hlegible, hbroken [doorRequirement 1 "at night"]
    (doorRequirement 2 "at\nnight") [] rfl (by decide) (by decide)⟩

end Model

end ReqConflict
