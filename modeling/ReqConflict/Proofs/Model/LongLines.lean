import Mathlib.Data.List.Forall2
import ReqConflict.Proofs.Model.RoundTrip
import ReqConflict.Proofs.Tuple.Header

/-!
# Reading a model line by line

Every line counts by itself.  A short line is skipped, and could not be read
anyway; a long line that can be read is read as the next requirement; the first
long line that cannot be read ends the reading, and the error names it.  Two
counters run along: the number of the line counts all lines, the number of the
requirement counts the long ones only.
-/

namespace ReqConflict

open Text

namespace Model

variable {line : List Char} {count : Nat} {before : List (List Char)} {requirement : Requirement}

/-- More than ten characters are left of the line without the blanks at its end. -/
def IsLong (line : List Char) : Prop :=
  10 < (trimEnd line).length

instance : DecidablePred IsLong :=
  fun line => inferInstanceAs (Decidable (10 < (trimEnd line).length))

def longLines (lines : List (List Char)) : List (List Char) :=
  lines.filter fun line => IsLong line

theorem longLines_cons_of_isLong (hlong : IsLong line) :
    longLines (line :: before) = line :: longLines before := by
  simp [longLines, hlong]

theorem longLines_cons_of_not_isLong (hshort : ¬IsLong line) :
    longLines (line :: before) = longLines before := by
  simp [longLines, hshort]

/-- What is read from the line alone, under a number and the group that is
written on the line. -/
structure IsOn (line : List Char) (number : Nat) (requirement : Requirement) : Prop where
  id_eq : requirement.id.toNat = number
  group_written : ∃ id, Requirement.BeginsWith (String.ofList line) id requirement.group
  read_eq : Requirement.read (String.ofList line) requirement.id requirement.group =
    .ok requirement

theorem isTupleLine_iff : isTupleLine (trimEnd line) = true ↔ IsLong line := by
  rw [isTupleLine, decide_eq_true_eq]
  rfl

theorem readLine_of_isReadable (hreadable : Requirement.IsReadable (String.ofList line))
    (count : Nat) (hcount : count + 1 < UInt32.size) :
    ∃ requirement, readLine count (trimEnd line) = .ok requirement ∧
      IsOn line (count + 1) requirement := by
  obtain ⟨written, group, hbegins⟩ := hreadable.exists_beginsWith
  obtain ⟨requirement, hread, hid, hgroup⟩ :=
    hreadable.exists_read (UInt32.ofNat (count + 1)) group
  have hheader := (Requirement.beginsWith_trimEnd_iff.mpr hbegins).readHeader_eq
  have hnext : nextId count = .ok (UInt32.ofNat (count + 1)) := if_pos hcount
  refine ⟨requirement, ?_, ?_, ⟨written, hgroup ▸ hbegins⟩, ?_⟩
  · simp only [readLine, hheader, hnext, Requirement.read_trimEnd, hread, bind, Except.bind]
  · rw [hid, UInt32.toNat_ofNat_of_lt' hcount]
  · rw [hid, hgroup, hread]

theorem readLine_of_not_isReadable (hreadable : ¬Requirement.IsReadable (String.ofList line))
    (count : Nat) : ∃ cause, readLine count (trimEnd line) = .error cause := by
  cases hread : readLine count (trimEnd line) with
  | error cause => exact ⟨cause, rfl⟩
  | ok requirement =>
      obtain ⟨⟨_, group⟩, _, hnumbered⟩ := bind_eq_ok_iff.mp hread
      obtain ⟨id, _, hrequirement⟩ := bind_eq_ok_iff.mp hnumbered
      rw [Requirement.read_trimEnd] at hrequirement
      exact absurd ⟨id, group, requirement, hrequirement⟩ hreadable

/-- Lines that can be read as far as they are long are read one after the other,
and reading goes on behind them with both counters moved. -/
theorem readLines_append
    (hbefore : ∀ line ∈ before, IsLong line → Requirement.IsReadable (String.ofList line))
    (start count : Nat) (pool : Pool) (hcount : count + before.length < UInt32.size) :
    ∃ requirements pool',
      List.Forall₂ (fun place requirement => IsOn place.1 place.2 requirement)
        ((longLines before).zipIdx (count + 1)) requirements ∧
      ∀ rest, readLines start count (before ++ rest) pool =
        let left := readLines (start + before.length) (count + requirements.length) rest pool'
        (left.1.map (requirements ++ ·), left.2) := by
  induction before generalizing start count pool with
  | nil =>
      refine ⟨[], pool, .nil, fun rest => ?_⟩
      simp only [map_nil_append]
      rfl
  | cons line before ih =>
      obtain ⟨hline, hbefore⟩ := List.forall_mem_cons.mp hbefore
      rw [List.length_cons] at hcount
      by_cases hlong : IsLong line
      · obtain ⟨requirement, hread, hon⟩ :=
          readLine_of_isReadable (hline hlong) count (by omega)
        obtain ⟨requirements, pool', hall, hrest⟩ := ih hbefore (start + 1) (count + 1)
          (Pool.canonicalRequirement requirement pool).2 (by omega)
        refine ⟨requirement :: requirements, pool', ?_, fun rest => ?_⟩
        · rw [longLines_cons_of_isLong hlong, List.zipIdx_cons]
          exact .cons hon hall
        · rw [List.cons_append, readLines_cons_of_ok (isTupleLine_iff.mpr hlong) hread, hrest]
          simp only [map_append_cons, List.length_cons, Nat.add_assoc, Nat.add_comm 1]
      · obtain ⟨requirements, pool', hall, hrest⟩ :=
          ih hbefore (start + 1) count pool (by omega)
        have hshort : isTupleLine (trimEnd line) = false :=
          Bool.eq_false_iff.mpr (mt isTupleLine_iff.mp hlong)
        refine ⟨requirements, pool', ?_, fun rest => ?_⟩
        · rw [longLines_cons_of_not_isLong hlong]
          exact hall
        · rw [List.cons_append, readLines_cons_of_short hshort, hrest]
          simp only [List.length_cons, Nat.add_assoc, Nat.add_comm 1]

/-- The line with this number is the first long one that cannot be read. -/
def IsFirstRejected (lines : List (List Char)) (number : Nat) : Prop :=
  ∃ before line after, lines = before ++ line :: after ∧ number = before.length + 1 ∧
    (∀ other ∈ before, IsLong other → Requirement.IsReadable (String.ofList other)) ∧
    IsLong line ∧ ¬Requirement.IsReadable (String.ofList line)

variable {text : String}

theorem exists_read_eq_ok (hcount : (lines text.toList).length < UInt32.size)
    (hreadable : ∀ line ∈ lines text.toList, IsLong line →
      Requirement.IsReadable (String.ofList line)) (pool : Pool) :
    ∃ requirements, (read text pool).1 = .ok requirements ∧
      List.Forall₂ (fun place requirement => IsOn place.1 place.2 requirement)
        ((longLines (lines text.toList)).zipIdx 1) requirements := by
  obtain ⟨requirements, pool', hall, hrest⟩ :=
    readLines_append hreadable 1 0 pool (by omega)
  refine ⟨requirements, ?_, hall⟩
  have hread := hrest []
  rw [List.append_nil] at hread
  rw [read, hread]
  exact congrArg Except.ok (List.append_nil requirements)

theorem exists_read_eq_error (hcount : (lines text.toList).length < UInt32.size)
    (hreadable : ¬∀ line ∈ lines text.toList, IsLong line →
      Requirement.IsReadable (String.ofList line)) (pool : Pool) :
    ∃ error, (read text pool).1 = .error error ∧
      IsFirstRejected (lines text.toList) error.line := by
  obtain ⟨before, line, after, hlines, hbefore, hfirst⟩ := exists_first_not hreadable
  obtain ⟨hlong, hunreadable⟩ := Classical.not_imp.mp hfirst
  rw [hlines, List.length_append] at hcount
  obtain ⟨requirements, pool', _, hrest⟩ :=
    readLines_append hbefore 1 0 pool (by omega)
  obtain ⟨cause, hcause⟩ := readLine_of_not_isReadable hunreadable (0 + requirements.length)
  refine ⟨⟨1 + before.length, cause⟩, ?_,
    before, line, after, hlines, Nat.add_comm 1 _, hbefore, hlong, hunreadable⟩
  rw [read, hlines, hrest, readLines_cons_of_error (isTupleLine_iff.mpr hlong) hcause]
  rfl

/-- A file is read if every long line of it can be read by itself, and then the requirements are
those of the long lines in order, numbered from one, each in the group written on its line.
Otherwise the error names the first long line that cannot be read.  No short line could have been
read, and a line that can be read has a header with the two numbers written on it. -/
theorem read_longLines (text : String) (pool : Pool)
    (hcount : (lines text.toList).length < UInt32.size) :
    ((∃ requirements, (read text pool).1 = .ok requirements) ↔
        ∀ line ∈ longLines (lines text.toList), Requirement.IsReadable (String.ofList line)) ∧
      (∀ requirements, (read text pool).1 = .ok requirements →
        List.Forall₂ (fun place requirement => IsOn place.1 place.2 requirement)
          ((longLines (lines text.toList)).zipIdx 1) requirements) ∧
      (∀ error, (read text pool).1 = .error error →
        IsFirstRejected (lines text.toList) error.line) ∧
      (∀ line, Requirement.IsReadable (String.ofList line) → IsLong line) ∧
      ∀ other, Requirement.IsReadable other → ∃ id group,
        Requirement.BeginsWith other id group ∧ Requirement.readHeader other = .ok (id, group) := by
  have hlong : (∀ line ∈ longLines (lines text.toList),
      Requirement.IsReadable (String.ofList line)) ↔
        ∀ line ∈ lines text.toList, IsLong line → Requirement.IsReadable (String.ofList line) := by
    simp [longLines]
  have hlocal : ∀ line, Requirement.IsReadable (String.ofList line) → IsLong line := by
    intro line hreadable
    have hlength := hreadable.length_trimEnd
    rwa [String.toList_ofList] at hlength
  have hheader : ∀ other, Requirement.IsReadable other → ∃ id group,
      Requirement.BeginsWith other id group ∧ Requirement.readHeader other = .ok (id, group) := by
    intro other hreadable
    obtain ⟨id, group, hbegins⟩ := hreadable.exists_beginsWith
    exact ⟨id, group, hbegins, hbegins.readHeader_eq⟩
  rw [hlong]
  by_cases hreadable : ∀ line ∈ lines text.toList, IsLong line →
      Requirement.IsReadable (String.ofList line)
  · obtain ⟨requirements, hread, hall⟩ := exists_read_eq_ok hcount hreadable pool
    rw [hread]
    refine ⟨⟨fun _ => hreadable, fun _ => ⟨requirements, rfl⟩⟩, ?_, ?_, hlocal, hheader⟩
    · rintro _ ⟨⟩
      exact hall
    · rintro _ ⟨⟩
  · obtain ⟨error, hread, hfirst⟩ := exists_read_eq_error hcount hreadable pool
    rw [hread]
    refine ⟨⟨?_, fun hall => absurd hall hreadable⟩, ?_, ?_, hlocal, hheader⟩
    · rintro ⟨_, ⟨⟩⟩
    · rintro _ ⟨⟩
    · rintro _ ⟨⟩
      exact hfirst

/-- A file with a separator and an empty line, whose only requirement has zeros in front of its id
and its group, and blanks at the end of its line. -/
def sparseText : String :=
  "-----\n(07) , (03) , (*always*) , (guard) , (open) , (gate) , (*void*) , (*void*) \r\n\n"

def sparse : Requirement :=
  { id := 1, group := 3, events := [], agent := .own ⟨"guard", .empty, false⟩,
    operation := ⟨"open", false, false⟩, input := [.own ⟨"gate", .empty, false⟩], output := [],
    restriction := [] }

/-- The same file with a requirement behind it that lacks its last fields. -/
def unfinishedText : String :=
  sparseText ++ "(9) , (3) , (*always*) , (guard) , (close)\n"

theorem read_longLines_sparseText :
    ((lines sparseText.toList).length < UInt32.size ∧
        (read sparseText Pool.empty).1 = .ok [sparse] ∧
        List.Forall₂ (fun place requirement => IsOn place.1 place.2 requirement)
          ((longLines (lines sparseText.toList)).zipIdx 1) [sparse]) ∧
      (lines unfinishedText.toList).length < UInt32.size ∧
        ∃ error, (read unfinishedText Pool.empty).1 = .error error ∧ error.line = 4 ∧
          IsFirstRejected (lines unfinishedText.toList) error.line := by
  have hsparse : (lines sparseText.toList).length < UInt32.size := by decide +kernel
  have hread : (read sparseText Pool.empty).1 = .ok [sparse] := by decide +kernel
  have hunfinished : (lines unfinishedText.toList).length < UInt32.size := by decide +kernel
  obtain ⟨_, hall, _⟩ := read_longLines sparseText Pool.empty hsparse
  obtain ⟨_, _, hfirst, _⟩ := read_longLines unfinishedText Pool.empty hunfinished
  refine ⟨⟨hsparse, hread, hall _ hread⟩, hunfinished, ?_⟩
  have hline : (read unfinishedText Pool.empty).1.mapError (·.line) = .error 4 := by
    decide +kernel
  cases hfailed : (read unfinishedText Pool.empty).1 with
  | ok requirements =>
      rw [hfailed] at hline
      cases hline
  | error error =>
      rw [hfailed] at hline
      exact ⟨error, rfl, Except.error.inj hline, hfirst error hfailed⟩

end Model

end ReqConflict
