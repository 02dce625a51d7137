import ReqConflict.Proofs.Pool.Handles
import ReqConflict.Proofs.Tuple.Reading

/-!
# The round trip of tuple text

Printing a requirement and reading the text gives the requirement back, with
the ids that the reader assigns, exactly if the requirement is legible.  No
string is excluded otherwise: reserved characters are escaped, a value that
starts like a flag is escaped where the flag may stand, and a marker in a value
is no marker because of its escaped asterisks.
-/

namespace ReqConflict

namespace Text

variable {opening closing : Char}

theorem trimStart_of_not_blank (hopening : isBlank opening = false) (text : List Char) :
    trimStart (opening :: text) = opening :: text := by
  simp [trimStart, hopening]

theorem trim_bracketed (hopening : isBlank opening = false) (hclosing : isBlank closing = false)
    (text : List Char) :
    trim (opening :: (text ++ [closing])) = opening :: (text ++ [closing]) := by
  rw [trim, trimStart_of_not_blank hopening, trimEnd]
  simp [hclosing]

end Text

namespace Tuple

open Text Text.Parser

theorem fields_bracketed (text : List Char) (texts : List (List Char)) :
    ∃ inside, fields (text :: texts) = '(' :: (inside ++ [')']) := by
  induction texts generalizing text with
  | nil => exact ⟨text, by rw [fields_singleton, parenthesized]; rfl⟩
  | cons next texts ih =>
      obtain ⟨inside, hinside⟩ := ih next
      refine ⟨text ++ [')'] ++ fieldSeparator.toList ++ '(' :: inside, ?_⟩
      rw [fields_cons, hinside, parenthesized]
      simp

theorem trim_requirement (requirement : Requirement) :
    trim (Tuple.requirement requirement) = Tuple.requirement requirement := by
  have hfields : ∃ inside, Tuple.requirement requirement = '(' :: (inside ++ [')']) :=
    fields_bracketed _ _
  obtain ⟨inside, hinside⟩ := hfields
  rw [hinside]
  exact trim_bracketed (by decide) (by decide) inside

theorem readWhole_toText (requirement : Requirement) :
    Grammar.readWhole Grammar.requirement requirement.toText =
      (whole Grammar.requirement (Tuple.requirement requirement)).toExcept
        (.malformed (Tuple.requirement requirement)) := by
  rw [Grammar.readWhole, Requirement.toText, String.toList_ofList, trim_requirement]

theorem readWhole_of_isLegible {requirement : Requirement} (hlegible : requirement.IsLegible) :
    Grammar.readWhole Grammar.requirement requirement.toText = .ok requirement := by
  have hread := (requirement_reads requirement).done hlegible [] trivial
  rw [List.append_nil] at hread
  rw [readWhole_toText, whole, hread]
  rfl

theorem readWhole_of_not_isLegible {requirement : Requirement}
    (hlegible : ¬requirement.IsLegible) :
    ∃ error, Grammar.readWhole Grammar.requirement requirement.toText = .error error := by
  have hwrong := (requirement_reads requirement).stopsAt hlegible [] trivial
  rw [List.append_nil] at hwrong
  rw [readWhole_toText, whole]
  cases hreply : Grammar.requirement (Tuple.requirement requirement) with
  | done value rest => exact absurd hreply (hwrong.not_done value rest)
  | fail committed trace => exact ⟨_, rfl⟩

end Tuple

namespace Requirement

theorem read_of_isLegible {requirement : Requirement} (hlegible : requirement.IsLegible)
    (id group : UInt32) :
    Requirement.read requirement.toText id group =
      .ok { requirement with id := id, group := group } := by
  rw [Requirement.read, Tuple.readWhole_of_isLegible hlegible]
  rfl

theorem read_of_not_isLegible {requirement : Requirement} (hlegible : ¬requirement.IsLegible)
    (id group : UInt32) : ∃ error, Requirement.read requirement.toText id group = .error error := by
  obtain ⟨error, herror⟩ := Tuple.readWhole_of_not_isLegible hlegible
  exact ⟨error, by rw [Requirement.read, herror]; rfl⟩

/-- The text of a requirement is read back exactly if the requirement is
legible.  What is read is the requirement under the given ids, and the handles
that it gets in a pool stand for just its entities. -/
theorem read_toText (requirement : Requirement) (id group : UInt32) (pool : Pool) :
    ((∃ result, Requirement.read requirement.toText id group = .ok result) ↔
        requirement.IsLegible) ∧
      ∀ result, Requirement.read requirement.toText id group = .ok result →
        result = { requirement with id := id, group := group } ∧
          (Pool.canonicalRequirement result pool).1.Of
            (Pool.canonicalRequirement result pool).2 result := by
  by_cases hlegible : requirement.IsLegible
  · have hread := read_of_isLegible hlegible id group
    constructor
    · exact ⟨fun _ => hlegible, fun _ => ⟨_, hread⟩⟩
    · intro result hresult
      rw [hread] at hresult
      have heq : { requirement with id := id, group := group } = result :=
        Except.ok.inj hresult
      obtain ⟨_, hhandles⟩ := Pool.pools_canonicalRequirement result pool
      exact ⟨heq.symm, hhandles _ (Pool.Extends.refl _)⟩
  · obtain ⟨error, herror⟩ := read_of_not_isLegible hlegible id group
    constructor
    · constructor
      · intro ⟨result, hresult⟩
        rw [herror] at hresult
        cases hresult
      · exact fun h => absurd h hlegible
    · intro result hresult
      rw [herror] at hresult
      cases hresult

end Requirement

end ReqConflict
