import ReqConflict.Proofs.Outcome
import ReqConflict.Proofs.Tuple.Taken

/-!
# The header of a requirement

Whatever is read as a requirement begins with two numbers in parentheses, and
goes on behind them.  They are its id and its group before it gets others.  The
header is read in front of any rest, so reading it alone finds the same two
numbers, though it does not look at the rest and keeps blanks at the end.
-/

namespace ReqConflict

open Text Text.Parser

namespace Tuple

theorem ensures_header_isHeader :
    Ensures Grammar.header fun taken ids => IsHeader taken ids.1 ids.2 := by
  apply (ensures_numeral.field "reqid").bind
  rintro _ id ⟨first, rfl, hfirst⟩
  apply (ensures_word fieldSeparator).bind
  rintro _ _ rfl
  apply (ensures_numeral.field "groupid").bind
  rintro _ group ⟨second, rfl, hsecond⟩
  apply ensures_pure
  exact ⟨first, second, hfirst, hsecond, by simp⟩

/-- A requirement has the numbers of the header in front of it. -/
theorem ensures_requirement_isHeader :
    Ensures Grammar.requirement fun taken requirement =>
      ∃ header more, IsHeader header requirement.id requirement.group ∧
        taken = header ++ (fieldSeparator.toList ++ more) := by
  apply ensures_header_isHeader.bind
  rintro header ⟨id, group⟩ hheader
  apply (ensures_word fieldSeparator).bind
  rintro _ _ rfl
  have halways : Spells alwaysMarker.toList [] := spells_of_all (by decide)
  apply ((ensures_condition.listOf halways).field "event").bind
  intro events _ _
  apply ensures_nextField.bind
  intro separator _ _
  apply ensures_body.bind
  intro fields action _
  apply ensures_pure
  exact ⟨header, events ++ (separator ++ fields), hheader, by simp⟩

end Tuple

namespace Requirement

variable {text : String} {id group : UInt32} {requirement : Requirement}

/-- The text is read as a requirement, under some id and group. -/
def IsReadable (text : String) : Prop :=
  ∃ id group requirement, read text id group = .ok requirement

/-- The text begins with an id and a group, blanks in front of them aside. -/
def BeginsWith (text : String) (id group : UInt32) : Prop :=
  ∃ header rest, Tuple.IsHeader header id group ∧ trim text.toList = header ++ rest

/-- The header is read in front of the blanks that trimming takes from the end. -/
theorem BeginsWith.readHeader_eq (hbegins : BeginsWith text id group) :
    readHeader text = .ok (id, group) := by
  obtain ⟨header, rest, hheader, htext⟩ := hbegins
  obtain ⟨blanks, hstart, _⟩ := exists_trimEnd (trimStart text.toList)
  rw [← trim, htext, List.append_assoc] at hstart
  rw [readHeader, hstart, hheader.reads.done trivial (rest ++ blanks) trivial]
  rfl

theorem IsReadable.exists_written (hreadable : IsReadable text) :
    ∃ written, Tuple.Grammar.readWhole Tuple.Grammar.requirement text = .ok written := by
  obtain ⟨_, _, _, hread⟩ := hreadable
  obtain ⟨written, hwritten, _⟩ := bind_eq_ok_iff.mp hread
  exact ⟨written, hwritten⟩

theorem IsReadable.exists_header (hreadable : IsReadable text) :
    ∃ id group header more, Tuple.IsHeader header id group ∧
      trim text.toList = header ++ (Tuple.fieldSeparator.toList ++ more) := by
  obtain ⟨written, hwritten⟩ := hreadable.exists_written
  obtain ⟨header, more, hheader, htext⟩ :=
    Tuple.ensures_requirement_isHeader.of_readWhole hwritten
  exact ⟨written.id, written.group, header, more, hheader, htext⟩

theorem IsReadable.exists_beginsWith (hreadable : IsReadable text) :
    ∃ id group, BeginsWith text id group := by
  obtain ⟨id, group, header, more, hheader, htext⟩ := hreadable.exists_header
  exact ⟨id, group, header, Tuple.fieldSeparator.toList ++ more, hheader, htext⟩

/-- The numbers that a requirement is given have no part in its reading. -/
theorem IsReadable.exists_read (hreadable : IsReadable text) (id group : UInt32) :
    ∃ requirement, read text id group = .ok requirement ∧ requirement.id = id ∧
      requirement.group = group := by
  obtain ⟨written, hwritten⟩ := hreadable.exists_written
  refine ⟨{ written with id := id, group := group }, ?_, rfl, rfl⟩
  rw [read, hwritten]
  rfl

/-- Two numbers in parentheses and two separators take more than ten characters. -/
theorem IsReadable.length_trimEnd (hreadable : IsReadable text) :
    10 < (trimEnd text.toList).length := by
  obtain ⟨id, group, header, more, ⟨first, second, hfirst, hsecond, rfl⟩, htext⟩ :=
    hreadable.exists_header
  have hid : 0 < first.length := List.length_pos_iff.mpr hfirst.ne_nil
  have hgroup : 0 < second.length := List.length_pos_iff.mpr hsecond.ne_nil
  have hseparator : Tuple.fieldSeparator.toList.length = 3 := by decide
  have hle := length_trim_le text.toList
  rw [htext] at hle
  simp only [Tuple.parenthesized, List.length_append, List.length_cons, List.length_nil,
    hseparator] at hle
  omega

theorem read_trimEnd (line : List Char) (id group : UInt32) :
    read (String.ofList (trimEnd line)) id group = read (String.ofList line) id group := by
  simp only [read, Tuple.Grammar.readWhole, String.toList_ofList, trim_trimEnd]

theorem beginsWith_trimEnd_iff {line : List Char} :
    BeginsWith (String.ofList (trimEnd line)) id group ↔
      BeginsWith (String.ofList line) id group := by
  simp only [BeginsWith, String.toList_ofList, trim_trimEnd]

end Requirement

end ReqConflict
