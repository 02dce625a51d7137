import ReqConflict.Model
import ReqConflict.Proofs.Outcome
import ReqConflict.Proofs.Tuple.RoundTrip
import ReqConflict.Proofs.Tuple.Taken

/-!
# A line of a model file

The text of a legible requirement is read from its line if no string breaks the
line.  If one does, the line ends inside a field: its parentheses cannot be in
pairs, while they are in pairs in all that can be read.  Either way the line is
not skipped, as it goes beyond the two numbers at its beginning.
-/

namespace ReqConflict

open Text Text.Parser

variable {requirement : Requirement} {line before : List Char} {count : Nat}

namespace Tuple

/-- A requirement that can be read back is printed with its parentheses in pairs. -/
theorem spellsInside_requirement (hlegible : requirement.IsLegible) :
    SpellsInside (Tuple.requirement requirement) requirement.strings := by
  have hread := (requirement_reads requirement).done hlegible [] trivial
  obtain ⟨taken, htaken, hspells, _⟩ := ensures_requirement _ _ _ hread
  rw [List.append_nil, List.append_nil] at htaken
  exact htaken ▸ hspells

theorem not_mem_requirement_iff (hlegible : requirement.IsLegible) :
    '\n' ∉ Tuple.requirement requirement ↔ requirement.IsUnbroken := by
  rw [(spellsInside_requirement hlegible).break_iff, Requirement.IsUnbroken]
  simp

/-- The beginning of a requirement, up to its events. -/
def openingText (requirement : Requirement) : List Char :=
  headerText requirement ++ fieldSeparator.toList ++ ['(']

theorem openingText_prefix (requirement : Requirement) :
    openingText requirement <+: Tuple.requirement requirement := by
  rw [requirement_eq_append, openingText, List.append_assoc, parenthesized]
  apply (List.prefix_append_right_inj _).mpr
  apply (List.prefix_append_right_inj _).mpr
  exact List.prefix_append ['('] _

theorem longestSkipped_lt_openingText (requirement : Requirement) :
    Model.longestSkipped < (openingText requirement).length := by
  have hid : 0 < (number requirement.id).length :=
    List.length_pos_of_ne_nil Nat.toDigits_ne_nil
  have hgroup : 0 < (number requirement.group).length :=
    List.length_pos_of_ne_nil Nat.toDigits_ne_nil
  have hseparator : fieldSeparator.toList.length = 3 := by decide
  simp only [openingText, headerText, parenthesized, List.length_append, List.length_cons,
    List.length_nil, hseparator, Model.longestSkipped]
  omega

theorem not_mem_number (n : UInt32) : '\n' ∉ number n := by
  intro hmem
  have hdigit : '\n'.isDigit = true := Nat.isDigit_of_mem_toDigits (by omega) (by omega) hmem
  revert hdigit
  decide

theorem not_mem_openingText (requirement : Requirement) : '\n' ∉ openingText requirement := by
  have hseparator : '\n' ∉ fieldSeparator.toList := by decide
  simp [openingText, headerText, parenthesized, not_mem_number, hseparator]

theorem trimStart_requirement (requirement : Requirement) :
    trimStart (Tuple.requirement requirement) = Tuple.requirement requirement := by
  rw [requirement_eq_append]
  exact trimStart_of_not_blank (by decide) _

theorem trimEnd_requirement (requirement : Requirement) :
    trimEnd (Tuple.requirement requirement) = Tuple.requirement requirement := by
  have htrim := trim_requirement requirement
  rw [trim, trimStart_requirement] at htrim
  exact htrim

end Tuple

namespace Model

theorem isTupleLine_of_prefix (hline : Tuple.openingText requirement <+: line) :
    isTupleLine (trimEnd line) = true := by
  have hprefix : Tuple.openingText requirement <+: trimEnd line :=
    prefix_trimEnd (by decide) hline
  have hlength := Tuple.longestSkipped_lt_openingText requirement
  rw [isTupleLine, decide_eq_true_eq]
  exact Nat.lt_of_lt_of_le hlength hprefix.length_le

/-- The text of a requirement up to a line feed in it goes beyond the beginning. -/
theorem openingText_prefix_of_break {after : List Char}
    (htext : Tuple.requirement requirement = before ++ '\n' :: after) :
    Tuple.openingText requirement <+: before := by
  have hprefix := Tuple.openingText_prefix requirement
  rw [htext] at hprefix
  rcases prefix_append_cases hprefix with hbefore | ⟨more, hmore, heq⟩
  · exact hbefore
  · rcases List.prefix_cons_iff.mp hmore with rfl | ⟨left, rfl, _⟩
    · rw [List.append_nil] at heq
      exact heq ▸ List.prefix_rfl
    · exact absurd (by simp [heq]) (Tuple.not_mem_openingText requirement)

theorem nextId_of_id {n : UInt32} (hid : n.toNat = count + 1) : nextId count = .ok n := by
  have hsize : count + 1 < UInt32.size := hid ▸ n.toNat_lt_size
  rw [nextId, if_pos hsize, ← hid, UInt32.ofNat_toNat]

theorem readHeader_toText (requirement : Requirement) :
    Requirement.readHeader requirement.toText = .ok (requirement.id, requirement.group) := by
  let event := Tuple.parenthesized
    (Tuple.list Tuple.alwaysMarker (requirement.events.map Tuple.condition))
  let body := Tuple.fields (Tuple.body requirement.toCondition)
  let behind := Tuple.fieldSeparator.toList ++ (event ++ (Tuple.fieldSeparator.toList ++ body))
  have htext : Tuple.requirement requirement = Tuple.headerText requirement ++ behind :=
    Tuple.requirement_eq_append requirement
  have hheader := (Tuple.isHeader_headerText requirement).reads
  have hread : Tuple.Grammar.header (Tuple.requirement requirement) =
      .done (requirement.id, requirement.group) behind := by
    rw [htext]
    exact hheader.done trivial behind trivial
  rw [Requirement.readHeader, Requirement.toText, String.toList_ofList,
    Tuple.trimStart_requirement, hread]
  rfl

/-- The line of a requirement that has its number is read as the requirement. -/
theorem readLine_requirement (hlegible : requirement.IsLegible)
    (hid : requirement.id.toNat = count + 1) :
    readLine count (Tuple.requirement requirement) = .ok requirement := by
  have hread := Requirement.read_of_isLegible hlegible requirement.id requirement.group
  have hheader := readHeader_toText requirement
  rw [Requirement.toText] at hread hheader
  simp only [readLine, hheader, nextId_of_id hid, hread, bind, Except.bind]

theorem id_of_nextId {n : UInt32} (hnext : nextId count = .ok n) :
    n.toNat = count + 1 := by
  rw [nextId] at hnext
  split at hnext
  · rename_i hsize
    cases hnext
    exact UInt32.toNat_ofNat_of_lt' hsize
  · cases hnext

theorem read_ok {text : String} {id group : UInt32}
    (hread : Requirement.read text id group = .ok requirement) :
    Tuple.Spells (trim text.toList) requirement.strings ∧ requirement.IsLegible ∧
      requirement.id = id := by
  obtain ⟨printed, hprinted, hrenumbered⟩ := bind_eq_ok_iff.mp hread
  cases hrenumbered
  obtain ⟨hspells, hlegible⟩ := Tuple.ensures_requirement.of_readWhole hprinted
  exact ⟨hspells.toSpells, ⟨hlegible.body, hlegible.events⟩, rfl⟩

theorem readLine_ok (hread : readLine count line = .ok requirement) :
    Tuple.Spells (trim line) requirement.strings ∧ requirement.IsLegible ∧
      requirement.id.toNat = count + 1 := by
  obtain ⟨⟨_, group⟩, _, hnumbered⟩ := bind_eq_ok_iff.mp hread
  obtain ⟨id, hid, hrequirement⟩ := bind_eq_ok_iff.mp hnumbered
  obtain ⟨hspells, hlegible, hsame⟩ := read_ok hrequirement
  rw [String.toList_ofList] at hspells
  exact ⟨hspells, hlegible, hsame ▸ id_of_nextId hid⟩

theorem readLine_of_open (hopen : 0 < openAfter line) (count : Nat) :
    ∃ cause, readLine count line = .error cause := by
  cases hread : readLine count line with
  | error cause => exact ⟨cause, rfl⟩
  | ok requirement =>
      obtain ⟨hspells, _⟩ := readLine_ok hread
      have hclosed := hspells.balanced.openAfter_eq
      rw [openAfter_trim] at hclosed
      omega

end Model

end ReqConflict
