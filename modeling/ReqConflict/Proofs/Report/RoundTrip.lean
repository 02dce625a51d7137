import ReqConflict.Proofs.Model.Line
import ReqConflict.Report

/-!
# Reading a text report

A text report is read line by line.  Outside a block a line names the kind of
the next conflict; inside one, an empty line ends the block, and any other line
holds a requirement.

The report quotes nothing: it stands on the form of a printed requirement,
which is never empty, and on one line unless a string breaks it.  So a report
of legible requirements without line feeds is read back conflict by conflict,
and different conflicts have different reports.
-/

namespace ReqConflict

open Text

/-- A requirement that was read, with the handles of its entities. -/
abbrev PooledRequirement := Requirement × RequirementHandles

namespace ConflictKind

theorem ofName?_ruleName (kind : ConflictKind) : ofName? kind.ruleName = some kind := by
  cases kind <;> decide

theorem not_mem_ruleName (kind : ConflictKind) : '\n' ∉ kind.ruleName.toList := by
  cases kind <;> decide

theorem getLast?_ruleName (kind : ConflictKind) : kind.ruleName.toList.getLast? ≠ some '\r' := by
  cases kind <;> decide

end ConflictKind

namespace Text

variable {line : List Char}

theorem closeLine_reverse (hline : line.getLast? ≠ some '\r') : closeLine line.reverse = line := by
  unfold closeLine
  split
  · rename_i others heq
    have hlast : line.getLast? = some '\r' := by
      rw [← List.head?_reverse, heq]
      rfl
    exact absurd hlast hline
  · exact List.reverse_reverse line

theorem lines_cons (hbreak : '\n' ∉ line) (hline : line.getLast? ≠ some '\r') (rest : List Char) :
    lines (line ++ '\n' :: rest) = line :: lines rest := by
  rw [lines_break hbreak, closeLine_reverse hline]

end Text

namespace Tuple

/-- A printed requirement stands in parentheses. -/
theorem exists_requirement_eq (requirement : Requirement) :
    ∃ inside, Tuple.requirement requirement = '(' :: (inside ++ [')']) :=
  fields_bracketed _ _

theorem requirement_ne_nil (requirement : Requirement) : Tuple.requirement requirement ≠ [] := by
  obtain ⟨inside, hinside⟩ := exists_requirement_eq requirement
  rw [hinside]
  exact List.cons_ne_nil _ _

theorem getLast?_requirement (requirement : Requirement) :
    (Tuple.requirement requirement).getLast? = some ')' := by
  obtain ⟨inside, hinside⟩ := exists_requirement_eq requirement
  rw [hinside, ← List.cons_append, List.getLast?_concat]

end Tuple

namespace Report

/-! ## The reader -/

inductive Fault where
  | unknownKind (line : List Char)
  | requirement (cause : TupleError)
  | openBlock (conflict : Conflict PooledRequirement)

/-- What was read so far: the conflicts of the finished blocks, that of the open one, and the
pool. -/
structure Reading where
  finished : List (Conflict PooledRequirement)
  current : Option (Conflict PooledRequirement)
  pool : Pool

/-- The requirement on a line, under the ids that are written there. -/
def readRequirement (line : List Char) (pool : Pool) :
    Except TupleError (PooledRequirement × Pool) := do
  let text := String.ofList line
  let (id, group) ← Requirement.readHeader text
  let requirement ← Requirement.read text id group
  let (handles, pool) := Pool.canonicalRequirement requirement pool
  return ((requirement, handles), pool)

namespace Reading

def step (reading : Reading) (line : List Char) : Except Fault Reading :=
  match reading.current with
  | none =>
      match ConflictKind.ofName? (String.ofList line) with
      | some kind => .ok { reading with current := some ⟨kind, []⟩ }
      | none => .error (.unknownKind line)
  | some conflict =>
      if line.isEmpty then
        .ok { reading with finished := reading.finished ++ [conflict], current := none }
      else
        match readRequirement line reading.pool with
        | .ok (member, pool) =>
            .ok { reading with
              current := some ⟨conflict.kind, conflict.members ++ [member]⟩
              pool := pool }
        | .error cause => .error (.requirement cause)

end Reading

/-- Reads a text report, and pools the entities of its requirements. -/
def read (text : String) (pool : Pool) :
    Except Fault (List (Conflict PooledRequirement) × Pool) := do
  let reading ← (lines text.toList).foldlM Reading.step ⟨[], none, pool⟩
  match reading.current with
  | none => return (reading.finished, reading.pool)
  | some conflict => throw (.openBlock conflict)

variable {conflict : Conflict Requirement} {conflicts finished : List (Conflict Requirement)}
  {requirement : Requirement} {members before : List Requirement} {kind : ConflictKind}
  {reading : Reading}

/-- Every requirement in the conflicts is legible, and none has a line feed in a string. -/
def IsLegible (conflicts : List (Conflict Requirement)) : Prop :=
  ∀ conflict ∈ conflicts, ∀ requirement ∈ conflict.members,
    requirement.IsLegible ∧ requirement.IsUnbroken

instance : Decidable (IsLegible conflicts) :=
  inferInstanceAs (Decidable (∀ conflict ∈ conflicts, ∀ requirement ∈ conflict.members,
    requirement.IsLegible ∧ requirement.IsUnbroken))

def blockLines (conflict : Conflict Requirement) : List (List Char) :=
  conflict.kind.ruleName.toList :: (conflict.members.map Tuple.requirement ++ [[]])

theorem lines_members
    (hmembers : ∀ requirement ∈ members, requirement.IsLegible ∧ requirement.IsUnbroken)
    (rest : List Char) :
    lines (members.flatMap (fun requirement => Tuple.requirement requirement ++ ['\n']) ++ rest) =
      members.map Tuple.requirement ++ lines rest := by
  induction members with
  | nil => rfl
  | cons requirement members ih =>
      obtain ⟨⟨hlegible, hunbroken⟩, hmembers⟩ := List.forall_mem_cons.mp hmembers
      have hbreak : '\n' ∉ Tuple.requirement requirement :=
        (Tuple.not_mem_requirement_iff hlegible).mpr hunbroken
      have hline : (Tuple.requirement requirement).getLast? ≠ some '\r' := by
        rw [Tuple.getLast?_requirement]
        decide
      simp only [List.flatMap_cons, List.append_assoc, List.cons_append, List.nil_append]
      rw [lines_cons hbreak hline, ih hmembers]
      rfl

theorem lines_block
    (hmembers : ∀ requirement ∈ conflict.members, requirement.IsLegible ∧ requirement.IsUnbroken)
    (rest : List Char) :
    lines (block conflict ++ rest) = blockLines conflict ++ lines rest := by
  have hend : lines ('\n' :: rest) = [] :: lines rest := rfl
  have hblock : block conflict ++ rest = conflict.kind.ruleName.toList ++ '\n' ::
      (conflict.members.flatMap (fun requirement => Tuple.requirement requirement ++ ['\n']) ++
        '\n' :: rest) := by
    simp [block]
  rw [hblock, lines_cons conflict.kind.not_mem_ruleName conflict.kind.getLast?_ruleName,
    lines_members hmembers, hend, blockLines]
  simp

theorem lines_text (hlegible : IsLegible conflicts) :
    lines (text conflicts).toList = conflicts.flatMap blockLines := by
  rw [text, String.toList_ofList]
  induction conflicts with
  | nil => rfl
  | cons conflict conflicts ih =>
      obtain ⟨hmembers, hlegible⟩ := List.forall_mem_cons.mp hlegible
      rw [List.flatMap_cons, lines_block hmembers, ih hlegible, List.flatMap_cons]

/-! ## Reading the lines -/

theorem readRequirement_requirement (hlegible : requirement.IsLegible) (pool : Pool) :
    readRequirement (Tuple.requirement requirement) pool =
      let pooled := Pool.canonicalRequirement requirement pool
      .ok ((requirement, pooled.1), pooled.2) := by
  have hread := Requirement.read_of_isLegible hlegible requirement.id requirement.group
  have hheader := Model.readHeader_toText requirement
  rw [Requirement.toText] at hread hheader
  simp only [readRequirement, hheader, hread, bind, Except.bind]
  rfl

namespace Reading

/-- Some conflicts were read, and of one more a part.  Their handles stand for their entities in
the pool and in every later one. -/
structure Holds (reading : Reading) (finished : List (Conflict Requirement))
    (current : Option (Conflict Requirement)) : Prop where
  finished_eq : reading.finished.map (Conflict.map Prod.fst) = finished
  current_eq : reading.current.map (Conflict.map Prod.fst) = current
  handles : ∀ conflict ∈ reading.finished ++ reading.current.toList,
    ∀ member ∈ conflict.members, ∀ later, reading.pool.Extends later → member.2.Of later member.1

theorem holds_start (pool : Pool) : Holds ⟨[], none, pool⟩ [] none :=
  ⟨rfl, rfl, by simp⟩

/-- The line of a kind opens a block. -/
theorem Holds.step_kind (hholds : reading.Holds finished none) (kind : ConflictKind) :
    ∃ next, reading.step kind.ruleName.toList = .ok next ∧
      next.Holds finished (some ⟨kind, []⟩) := by
  have hcurrent : reading.current = none := by simpa using hholds.current_eq
  refine ⟨{ reading with current := some ⟨kind, []⟩ }, ?_, hholds.finished_eq, rfl, ?_⟩
  · simp [step, hcurrent, String.ofList_toList, ConflictKind.ofName?_ruleName]
  · intro conflict hconflict
    rcases List.mem_append.mp hconflict with hmem | hmem
    · exact hholds.handles conflict (List.mem_append_left _ hmem)
    · rw [List.mem_singleton.mp hmem]
      simp

/-- The line of a requirement adds it to the open block. -/
theorem Holds.step_requirement (hholds : reading.Holds finished (some ⟨kind, before⟩))
    (hlegible : requirement.IsLegible) :
    ∃ next, reading.step (Tuple.requirement requirement) = .ok next ∧
      next.Holds finished (some ⟨kind, before ++ [requirement]⟩) := by
  obtain ⟨found, hcurrent, hfound⟩ := Option.map_eq_some_iff.mp hholds.current_eq
  obtain ⟨hextends, hpooled⟩ := Pool.pools_canonicalRequirement requirement reading.pool
  have hnonempty : (Tuple.requirement requirement).isEmpty = false := by
    simpa using Tuple.requirement_ne_nil requirement
  let pooled := Pool.canonicalRequirement requirement reading.pool
  let extended : Conflict PooledRequirement :=
    ⟨found.kind, found.members ++ [(requirement, pooled.1)]⟩
  have hextended : extended.map Prod.fst = ⟨kind, before ++ [requirement]⟩ := by
    obtain ⟨rfl, rfl⟩ := Conflict.mk.inj hfound
    simp [extended, Conflict.map]
  refine ⟨{ reading with current := some extended, pool := pooled.2 }, ?_, hholds.finished_eq,
    congrArg some hextended, ?_⟩
  · simp only [step, hcurrent, hnonempty, readRequirement_requirement hlegible]
    rfl
  · intro conflict hconflict member hmember later hlater
    have hbefore : reading.pool.Extends later := hextends.trans hlater
    rcases List.mem_append.mp hconflict with hmem | hmem
    · exact hholds.handles conflict (List.mem_append_left _ hmem) member hmember later hbefore
    · rw [List.mem_singleton.mp hmem] at hmember
      rcases List.mem_append.mp hmember with hold | hnew
      · exact hholds.handles found (by simp [hcurrent]) member hold later hbefore
      · rw [List.mem_singleton.mp hnew]
        exact hpooled later hlater

/-- An empty line closes the block. -/
theorem Holds.step_end (hholds : reading.Holds finished (some conflict)) :
    ∃ next, reading.step [] = .ok next ∧ next.Holds (finished ++ [conflict]) none := by
  obtain ⟨found, hcurrent, hfound⟩ := Option.map_eq_some_iff.mp hholds.current_eq
  refine ⟨{ reading with finished := reading.finished ++ [found], current := none }, ?_, ?_, rfl,
    ?_⟩
  · simp [step, hcurrent]
  · simp [hholds.finished_eq, hfound]
  · simpa [hcurrent] using hholds.handles

theorem Holds.foldlM_members (hholds : reading.Holds finished (some ⟨kind, before⟩))
    (hmembers : ∀ requirement ∈ members, requirement.IsLegible) :
    ∃ next, (members.map Tuple.requirement).foldlM step reading = .ok next ∧
      next.Holds finished (some ⟨kind, before ++ members⟩) := by
  induction members generalizing reading before with
  | nil => exact ⟨reading, rfl, by simpa using hholds⟩
  | cons requirement members ih =>
      obtain ⟨hlegible, hmembers⟩ := List.forall_mem_cons.mp hmembers
      obtain ⟨between, hstep, hbetween⟩ := hholds.step_requirement hlegible
      obtain ⟨next, hsteps, hnext⟩ := ih hbetween hmembers
      refine ⟨next, ?_, by simpa using hnext⟩
      rw [List.map_cons, List.foldlM_cons]
      exact bind_eq_ok_iff.mpr ⟨between, hstep, hsteps⟩

theorem Holds.foldlM_block (hholds : reading.Holds finished none)
    (hmembers : ∀ requirement ∈ conflict.members, requirement.IsLegible) :
    ∃ next, (blockLines conflict).foldlM step reading = .ok next ∧
      next.Holds (finished ++ [conflict]) none := by
  obtain ⟨opened, hopen, hopened⟩ := hholds.step_kind conflict.kind
  obtain ⟨filled, hfill, hfilled⟩ := hopened.foldlM_members hmembers
  obtain ⟨next, hclose, hnext⟩ := hfilled.step_end
  refine ⟨next, ?_, hnext⟩
  rw [blockLines, List.foldlM_cons]
  refine bind_eq_ok_iff.mpr ⟨opened, hopen, ?_⟩
  rw [List.foldlM_append]
  refine bind_eq_ok_iff.mpr ⟨filled, hfill, ?_⟩
  exact bind_eq_ok_iff.mpr ⟨next, hclose, rfl⟩

theorem Holds.foldlM_blocks (hholds : reading.Holds finished none)
    (hlegible : IsLegible conflicts) :
    ∃ next, (conflicts.flatMap blockLines).foldlM step reading = .ok next ∧
      next.Holds (finished ++ conflicts) none := by
  induction conflicts generalizing reading finished with
  | nil => exact ⟨reading, rfl, by simpa using hholds⟩
  | cons conflict conflicts ih =>
      obtain ⟨hmembers, hlegible⟩ := List.forall_mem_cons.mp hlegible
      obtain ⟨between, hblock, hbetween⟩ :=
        hholds.foldlM_block fun requirement hmem => (hmembers requirement hmem).1
      obtain ⟨next, hblocks, hnext⟩ := ih hbetween hlegible
      refine ⟨next, ?_, by simpa using hnext⟩
      rw [List.flatMap_cons, List.foldlM_append]
      exact bind_eq_ok_iff.mpr ⟨between, hblock, hblocks⟩

end Reading

theorem exists_read_text (hlegible : IsLegible conflicts) (pool : Pool) :
    ∃ found later, read (text conflicts) pool = .ok (found, later) ∧
      found.map (Conflict.map Prod.fst) = conflicts ∧
      ∀ conflict ∈ found, ∀ member ∈ conflict.members, member.2.Of later member.1 := by
  obtain ⟨reading, hread, hholds⟩ := (Reading.holds_start pool).foldlM_blocks hlegible
  have hcurrent : reading.current = none := by simpa using hholds.current_eq
  refine ⟨reading.finished, reading.pool, ?_, hholds.finished_eq, ?_⟩
  · rw [read, lines_text hlegible]
    refine bind_eq_ok_iff.mpr ⟨reading, hread, ?_⟩
    rw [hcurrent]
    rfl
  · intro conflict hconflict member hmember
    exact hholds.handles conflict (List.mem_append_left _ hconflict) member hmember _
      (Pool.Extends.refl _)

/-- The report of legible conflicts without line feeds is read as the same conflicts: of the same
kinds, between equal requirements, in the same order.  The handles of the requirements stand for
their entities.  So different conflicts have different reports. -/
theorem read_text_of_isLegible (hlegible : IsLegible conflicts) :
    (∀ pool, ∃ found later, read (text conflicts) pool = .ok (found, later) ∧
      found.map (Conflict.map Prod.fst) = conflicts ∧
      ∀ conflict ∈ found, ∀ member ∈ conflict.members, member.2.Of later member.1) ∧
    ∀ others, IsLegible others → text others = text conflicts → others = conflicts := by
  refine ⟨exists_read_text hlegible, ?_⟩
  intro others hothers htext
  obtain ⟨found, _, hread, hfound, _⟩ := exists_read_text hlegible Pool.empty
  obtain ⟨found', _, hread', hfound', _⟩ := exists_read_text hothers Pool.empty
  rw [htext, hread] at hread'
  have hsame : found = found' := (Prod.mk.inj (Except.ok.inj hread')).1
  rw [← hfound', ← hsame, hfound]

/-- A requirement with strings that look like parts of a report. -/
def forgedRequirement : Requirement :=
  { id := 7, group := 2,
    events := [⟨.system, ⟨"NOT ", false, true⟩, [], [], ["operation inconsistency"]⟩],
    agent := .part ⟨"ALL ", .ofList ["of", "[of "], true⟩ .system,
    operation := ⟨"", true, false⟩, input := [], output := [.own ⟨"*void*", .empty, false⟩],
    restriction := [") , (", "event inclusion\r"] }

theorem read_text_of_isLegible_forged :
    let conflicts : List (Conflict Requirement) :=
      [⟨.operationInconsistency, [forgedRequirement, forgedRequirement]⟩, ⟨.eventInclusion, []⟩]
    IsLegible conflicts ∧
      (∃ found later, read (text conflicts) Pool.empty = .ok (found, later) ∧
        found.map (Conflict.map Prod.fst) = conflicts) ∧
      text conflicts.reverse ≠ text conflicts := by
  intro conflicts
  have hlegible : IsLegible conflicts := by decide
  have hreverse : IsLegible conflicts.reverse := by decide
  obtain ⟨hread, hinjective⟩ := read_text_of_isLegible hlegible
  obtain ⟨found, later, hfound, hsame, _⟩ := hread Pool.empty
  refine ⟨hlegible, ⟨found, later, hfound, hsame⟩, fun htext => ?_⟩
  have hequal := hinjective conflicts.reverse hreverse htext
  revert hequal
  decide

end Report

end ReqConflict
