import ReqConflict.Proofs.Text.Lines
import ReqConflict.Proofs.Text.Taken
import ReqConflict.Proofs.Tuple.Reading

/-!
# The texts of tuples

What the grammar reads as a tuple has its parentheses in pairs, and the tuple
is legible.  The strings of the tuple are the only places where the text can
have a line feed, and in the text of a requirement they are all inside the
parentheses of a field.
-/

namespace ReqConflict

def Noun.strings (noun : Noun) : List String :=
  noun.base :: noun.modifiers.toList

/-- The strings of an entity and of its owners. -/
def Entity.strings (entity : Entity) : List String :=
  entity.chain.flatMap fun member => member.noun.strings

def Condition.strings (condition : Condition) : List String :=
  condition.agent.strings ++ condition.operation.predicate ::
    (condition.input.flatMap Entity.strings ++
      (condition.output.flatMap Entity.strings ++ condition.restriction))

def Requirement.strings (requirement : Requirement) : List String :=
  requirement.events.flatMap Condition.strings ++ requirement.toCondition.strings

/-- No string of the requirement has a line feed in it. -/
def Requirement.IsUnbroken (requirement : Requirement) : Prop :=
  ∀ text ∈ requirement.strings, '\n' ∉ text.toList

instance (requirement : Requirement) : Decidable requirement.IsUnbroken :=
  inferInstanceAs (Decidable (∀ text ∈ requirement.strings, '\n' ∉ text.toList))

theorem Entity.strings_ofNoun (noun : Noun) (whole : Option Entity) :
    (ofNoun noun whole).strings =
      noun.base :: (noun.modifiers.toList ++ (whole.map strings).getD []) := by
  cases whole with
  | none => simp [strings, ofNoun, chain, Noun.strings, Entity.noun]
  | some whole => simp [strings, ofNoun, chain, Noun.strings, Entity.noun]

theorem Entity.isLegible_ofNoun_iff (noun : Noun) (whole : Option Entity) :
    (ofNoun noun whole).IsLegible ↔ noun.IsLegible ∧ ∀ owner ∈ whole, owner.IsLegible := by
  cases whole with
  | none => simp [ofNoun, isLegible_own_iff]
  | some whole => simp [ofNoun, isLegible_part_iff]

namespace Text.Parser.Ensures

variable {α : Type} {part : Parser α} {post : List Char → α → Prop}

theorem field (hpart : Ensures part post) (name : String) :
    Ensures (Parser.named name (Tuple.Grammar.field part)) fun taken value =>
      ∃ inside, taken = Tuple.parenthesized inside ∧ post inside value := by
  apply Ensures.named
  apply (ensures_char '(').bind
  rintro _ _ rfl
  apply hpart.bind
  intro inside value hinside
  apply (ensures_char ')').bind
  rintro _ _ rfl
  apply ensures_pure
  exact ⟨inside, by simp [Tuple.parenthesized], hinside⟩

theorem of_readWhole (hpart : Ensures part post) {text : String} {value : α}
    (hread : Tuple.Grammar.readWhole part text = .ok value) : post (trim text.toList) value := by
  rw [Tuple.Grammar.readWhole] at hread
  cases hreply : whole part (trim text.toList) with
  | fail committed trace =>
      rw [hreply] at hread
      cases hread
  | done found rest =>
      rw [hreply] at hread
      cases hread
      exact hpart.of_whole hreply

end Text.Parser.Ensures

namespace Tuple

open Text Text.Parser

/-- A text with its parentheses in pairs that has a line feed in it just if one of some strings
has. -/
structure Spells (text : List Char) (strings : List String) : Prop where
  balanced : Balanced text
  break_iff : '\n' ∈ text ↔ ∃ string ∈ strings, '\n' ∈ string.toList

variable {text text' : List Char} {strings strings' : List String}

theorem Spells.nil : Spells [] [] :=
  ⟨.nil, by simp⟩

theorem Spells.append (hspells : Spells text strings) (hspells' : Spells text' strings') :
    Spells (text ++ text') (strings ++ strings') where
  balanced := hspells.balanced.append hspells'.balanced
  break_iff := by simp [hspells.break_iff, hspells'.break_iff, or_and_right, exists_or]

theorem spells_of_plain (hplain : ∀ c ∈ text, IsPlain c ∧ c ≠ '\n') : Spells text [] where
  balanced := balanced_of_plain fun c hc => (hplain c hc).1
  break_iff := by
    constructor
    · exact fun hmem => absurd rfl (hplain '\n' hmem).2
    · rintro ⟨string, hstring, _⟩
      cases hstring

theorem spells_of_all (hall : (text.all fun c => decide (IsPlain c ∧ c ≠ '\n')) = true) :
    Spells text [] := by
  apply spells_of_plain
  intro c hc
  exact of_decide_eq_true (List.all_eq_true.mp hall c hc)

theorem Spells.congr (hspells : Spells text strings)
    (hstrings : ∀ string, string ∈ strings' ↔ string ∈ strings) : Spells text strings' where
  balanced := hspells.balanced
  break_iff := by
    rw [hspells.break_iff]
    constructor
    · rintro ⟨string, hstring, hbreak⟩
      exact ⟨string, (hstrings string).mpr hstring, hbreak⟩
    · rintro ⟨string, hstring, hbreak⟩
      exact ⟨string, (hstrings string).mp hstring, hbreak⟩

/-- A part of the grammar that only reads texts of what it yields, and only legible ones. -/
abbrev ReadsSpelled {α : Type} (part : Parser α) (strings : α → List String)
    (legible : α → Prop) : Prop :=
  Ensures part fun taken value => Spells taken (strings value) ∧ legible value

theorem ensures_word_spells {word : String} (hword : Spells word.toList []) :
    Ensures (Parser.word word) fun taken _ => Spells taken [] :=
  (ensures_word word).mono fun _ _ htaken => htaken ▸ hword

theorem ensures_value :
    Ensures Grammar.value fun taken value => Spells taken [String.ofList value] := by
  intro input value rest hread
  rw [Grammar.value] at hread
  split at hread
  · rename_i hdecode
    cases hread
    obtain ⟨taken, hinput, hbalanced, hbreak⟩ := Escape.balanced_of_decode hdecode
    exact ⟨taken, hinput, hbalanced, by simp [hbreak]⟩
  · cases hread
    exact ⟨[], rfl, .nil, by simp⟩

theorem ensures_nonemptyValue :
    Ensures Grammar.nonemptyValue fun taken value =>
      Spells taken [String.ofList value] ∧ String.ofList value ≠ "" := by
  apply (ensures_value.satisfying _).mono
  rintro taken value ⟨hspells, hfull⟩
  refine ⟨hspells, ?_⟩
  simpa [String.ofList_eq_empty_iff] using hfull

theorem ensures_flagged {flag : String} (hflag : Spells flag.toList []) :
    Ensures (Grammar.flagged flag) fun taken _ => Spells taken [] := by
  apply (ensures_word_spells hflag).optional.bind
  intro taken flag htaken
  apply ensures_pure
  rw [List.append_nil]
  rcases htaken with ⟨_, rfl⟩ | ⟨_, _, htaken⟩
  · exact .nil
  · exact htaken

theorem ensures_marker {α : Type} {marker : String} (hmarker : Spells marker.toList [])
    (meaning : α) :
    Ensures (Grammar.marker marker meaning) fun taken value =>
      Spells taken [] ∧ value = meaning := by
  apply (ensures_word_spells hmarker).bind
  intro taken _ htaken
  apply ensures_pure
  rw [List.append_nil]
  exact ⟨htaken, rfl⟩

theorem ensures_numeral : Ensures Grammar.number Numeral := by
  apply (ensures_span1 "Digit" Char.isDigit).converted.mono
  rintro digits n ⟨_, ⟨rfl, hne, hdigits⟩, hconvert⟩
  split at hconvert
  · rename_i hsize
    rw [← Option.some.inj hconvert]
    exact ⟨hne, hdigits, (UInt32.toNat_ofNat_of_lt' hsize).symm⟩
  · cases hconvert

theorem Numeral.spells {digits : List Char} {n : UInt32} (hdigits : Numeral digits n) :
    Spells digits [] := by
  apply spells_of_plain
  intro c hc
  have hdigit : c.isDigit = true := hdigits.isDigit c hc
  refine ⟨isPlain_of_accepts Char.isDigit (by decide) (by decide) (by decide) hdigit, ?_⟩
  rintro rfl
  cases hdigit

/-! ## Entities -/

section Parts

variable {α : Type} {part : Parser α} {opening closing : Parser Unit}
  {stringsOf : α → List String} {legible : α → Prop}

theorem ReadsSpelled.between (hpart : ReadsSpelled part stringsOf legible)
    (hopening : Ensures opening fun taken _ => Spells taken [])
    (hclosing : Ensures closing fun taken _ => Spells taken []) :
    ReadsSpelled (between opening part closing) stringsOf legible := by
  apply hopening.bind
  intro taken _ htaken
  apply hpart.bind
  rintro inside value ⟨hinside, hlegible⟩
  apply hclosing.bind
  intro taken' _ htaken'
  apply ensures_pure
  have hspells := htaken.append (hinside.append htaken')
  simp only [List.append_nil, List.nil_append] at hspells ⊢
  exact ⟨hspells, hlegible⟩

theorem ensures_char_spells {c : Char} (hc : IsPlain c ∧ c ≠ '\n') :
    Ensures (char c) fun taken _ => Spells taken [] := by
  apply (ensures_char c).mono
  rintro _ _ rfl
  apply spells_of_plain
  simpa using hc

theorem ReadsSpelled.many (hpart : ReadsSpelled part stringsOf legible) :
    ReadsSpelled (many part) (fun values => values.flatMap stringsOf)
      (fun values => ∀ value ∈ values, legible value) := by
  apply ensures_many hpart
  · exact ⟨.nil, by simp⟩
  · rintro taken value taken' values ⟨hspells, hlegible⟩ ⟨hspells', hlegible'⟩
    exact ⟨hspells.append hspells', List.forall_mem_cons.mpr ⟨hlegible, hlegible'⟩⟩

theorem ReadsSpelled.listOf (hpart : ReadsSpelled part stringsOf legible) {marker : String}
    (hmarker : Spells marker.toList []) :
    ReadsSpelled (Grammar.listOf marker part) (fun values => values.flatMap stringsOf)
      (fun values => ∀ value ∈ values, legible value) := by
  have hnone : Spells [] (([] : List α).flatMap stringsOf) ∧
      ∀ value ∈ ([] : List α), legible value := ⟨.nil, by simp⟩
  have hseparator : Ensures (word itemSeparator) fun taken _ => Spells taken [] :=
    ensures_word_spells (spells_of_all (by decide))
  apply ensures_choice_pair
  · apply (ensures_marker hmarker []).mono
    rintro taken values ⟨hspells, rfl⟩
    exact ⟨hspells, hnone.2⟩
  · apply hpart.separated1 hseparator hnone
    · rintro taken value taken' values ⟨hspells, hlegible⟩ ⟨hspells', hlegible'⟩
      exact ⟨hspells.append hspells', List.forall_mem_cons.mpr ⟨hlegible, hlegible'⟩⟩
    · rintro taken taken' value others values htaken ⟨hspells, hlegible⟩ ⟨hspells', hlegible'⟩
      exact ⟨(htaken.append hspells).append hspells',
        List.forall_mem_cons.mpr ⟨hlegible, hlegible'⟩⟩

end Parts

theorem ensures_modifiers :
    ReadsSpelled (many (between (char '[') Grammar.nonemptyValue (char ']')))
      (fun values => values.map String.ofList)
      (fun values => ∀ modifier ∈ values.map String.ofList, modifier ≠ "") := by
  have hmodifier : ReadsSpelled (between (char '[') Grammar.nonemptyValue (char ']'))
      (fun value => [String.ofList value]) (fun value => String.ofList value ≠ "") :=
    ReadsSpelled.between ensures_nonemptyValue (ensures_char_spells (by decide))
      (ensures_char_spells (by decide))
  apply hmodifier.many.mono
  rintro taken values ⟨hspells, hlegible⟩
  have hmap : values.map String.ofList = values.flatMap fun value => [String.ofList value] :=
    List.map_eq_flatMap
  refine ⟨?_, by simpa using hlegible⟩
  simp only [hmap]
  exact hspells

theorem ensures_base :
    Ensures (named "entity base" (choice [Grammar.marker systemMarker [], Grammar.nonemptyValue]))
      fun taken base => Spells taken [String.ofList base] := by
  apply Ensures.named
  apply ensures_choice_pair
  · apply (ensures_marker (spells_of_all (by decide)) []).mono
    rintro taken base ⟨hspells, rfl⟩
    exact ⟨hspells.balanced, by simp [hspells.break_iff]⟩
  · exact ensures_nonemptyValue.mono fun taken base hbase => hbase.1

theorem ensures_entityUpTo (owners : Nat) :
    ReadsSpelled (Grammar.entityUpTo owners) Entity.strings Entity.IsLegible := by
  induction owners with
  | zero => exact ensures_reject _
  | succ owners ih =>
      have howner : ReadsSpelled (between (word ownerOpening) (Grammar.entityUpTo owners) (char ']'))
          Entity.strings Entity.IsLegible :=
        ih.between (ensures_word_spells (spells_of_all (by decide)))
          (ensures_char_spells (by decide))
      rw [Grammar.entityUpTo]
      apply (ensures_flagged (spells_of_all (by decide))).bind
      intro first isAll hfirst
      apply ensures_modifiers.bind
      rintro second modifiers ⟨hsecond, hmodifiers⟩
      apply ensures_base.bind
      intro third base hthird
      apply howner.optional.bind
      intro fourth whole hwhole
      apply ensures_pure
      have hnoun : ∀ modifier ∈ (Modifiers.ofList (modifiers.map String.ofList)).toList,
          modifier ≠ "" :=
        fun modifier hmem => hmodifiers modifier (Modifiers.mem_ofList.mp hmem)
      have hspells := hfirst.append (hsecond.append hthird)
      rw [Entity.isLegible_ofNoun_iff, Entity.strings_ofNoun]
      simp only [List.append_nil, List.nil_append] at hspells ⊢
      rcases hwhole with ⟨rfl, rfl⟩ | ⟨whole, rfl, hfourth, hlegible⟩
      · refine ⟨?_, hnoun, by simp⟩
        rw [List.append_nil]
        apply hspells.congr
        intro string
        simp [Modifiers.mem_ofList, or_comm]
      · refine ⟨?_, hnoun, by simpa using hlegible⟩
        have hall := hspells.append hfourth
        simp only [List.append_assoc] at hall
        apply hall.congr
        intro string
        simp [Modifiers.mem_ofList, or_left_comm]

theorem ensures_entity : ReadsSpelled Grammar.entity Entity.strings Entity.IsLegible :=
  fun input => ensures_entityUpTo (input.length + 1) input

/-- A text of some strings that breaks only inside parentheses. -/
structure SpellsInside (text : List Char) (strings : List String) : Prop
    extends Spells text strings where
  breaksInside : BreaksInside text

theorem SpellsInside.append (hspells : SpellsInside text strings)
    (hspells' : SpellsInside text' strings') :
    SpellsInside (text ++ text') (strings ++ strings') where
  toSpells := hspells.toSpells.append hspells'.toSpells
  breaksInside := hspells.breaksInside.append hspells.balanced hspells'.breaksInside

theorem Spells.parenthesized (hspells : Spells text strings) :
    SpellsInside ('(' :: (text ++ [')'])) strings where
  balanced := hspells.balanced.parenthesized
  break_iff := by simp [hspells.break_iff]
  breaksInside := hspells.balanced.breaksInside_parenthesized

/-- A part of the grammar that reads texts of what it yields, breaking only inside
parentheses. -/
abbrev ReadsInside {α : Type} (part : Parser α) (strings : α → List String)
    (legible : α → Prop) : Prop :=
  Ensures part fun taken value => SpellsInside taken (strings value) ∧ legible value

theorem ReadsSpelled.field {α : Type} {part : Parser α} {stringsOf : α → List String}
    {legible : α → Prop} (hpart : ReadsSpelled part stringsOf legible) (name : String) :
    ReadsInside (named name (Grammar.field part)) stringsOf legible := by
  apply (Ensures.field hpart name).mono
  rintro _ value ⟨inside, rfl, hinside, hlegible⟩
  exact ⟨hinside.parenthesized, hlegible⟩

theorem ensures_nextField : Ensures Grammar.nextField fun taken _ => SpellsInside taken [] := by
  apply (ensures_word fieldSeparator).mono
  rintro _ _ rfl
  have hspells : Spells fieldSeparator.toList [] := spells_of_all (by decide)
  exact ⟨hspells, breaksInside_of_not_mem (by decide)⟩

theorem ReadsInside.next {α β : Type} {part : Parser α} {next : α → Parser β}
    {stringsOf : α → List String} {legible : α → Prop}
    {post : List Char → β → Prop} (hpart : ReadsInside part stringsOf legible)
    (hnext : ∀ taken value, SpellsInside taken (stringsOf value) → legible value →
      Ensures (next value) fun taken' result => post (taken ++ taken') result) :
    Ensures (part >>= fun value => Grammar.nextField >>= fun _ => next value) post := by
  apply hpart.bind
  rintro taken value ⟨hspells, hlegible⟩
  apply ensures_nextField.bind
  intro taken' _ htaken'
  have hboth := hspells.append htaken'
  rw [List.append_nil] at hboth
  simp only [← List.append_assoc]
  exact hnext (taken ++ taken') value hboth hlegible

theorem ensures_operation :
    ReadsSpelled Grammar.operation (fun operation => [operation.predicate]) (fun _ => True) := by
  apply (ensures_flagged (spells_of_all (by decide))).bind
  intro first able hfirst
  apply (ensures_flagged (spells_of_all (by decide))).bind
  intro second negated hsecond
  apply ensures_value.bind
  intro third predicate hthird
  apply ensures_pure
  rw [List.append_nil]
  exact ⟨hfirst.append (hsecond.append hthird), trivial⟩

theorem ensures_restriction :
    ReadsSpelled Grammar.restriction (fun text => [text]) (fun text => text ≠ "") := by
  apply ensures_nonemptyValue.bind
  intro taken value hvalue
  apply ensures_pure
  rw [List.append_nil]
  exact hvalue

theorem ensures_restrictions :
    ReadsSpelled (Grammar.listOf voidMarker Grammar.restriction) (fun texts => texts)
      (fun texts => ∀ text ∈ texts, text ≠ "") := by
  have hvoid : Spells voidMarker.toList [] := spells_of_all (by decide)
  have hlist := ensures_restriction.listOf hvoid
  simpa using hlist

/-! ## Conditions and requirements -/

theorem ensures_body : ReadsInside Grammar.body Condition.strings Condition.IsLegible := by
  have hvoid : Spells voidMarker.toList [] := spells_of_all (by decide)
  apply (ensures_entity.field "agent").next
  intro _ agent hagent hagentLegible
  apply (ensures_operation.field "operation").next
  intro _ operation hoperation _
  apply ((ensures_entity.listOf hvoid).field "input").next
  intro _ input hinput hinputLegible
  apply ((ensures_entity.listOf hvoid).field "output").next
  intro _ output houtput houtputLegible
  apply (ensures_restrictions.field "restriction").bind
  rintro _ restriction ⟨hrestriction, hrestrictionLegible⟩
  apply ensures_pure
  rw [List.append_nil]
  refine ⟨?_, hagentLegible, hinputLegible, houtputLegible, hrestrictionLegible⟩
  exact hagent.append (hoperation.append (hinput.append (houtput.append hrestriction)))

theorem ensures_condition :
    ReadsSpelled Grammar.condition Condition.strings Condition.IsLegible := by
  have hbody : ReadsSpelled Grammar.body Condition.strings Condition.IsLegible :=
    ensures_body.mono fun _ _ hbody => ⟨hbody.1.toSpells, hbody.2⟩
  have hbraced := hbody.between (ensures_char_spells (c := '{') (by decide))
    (ensures_char_spells (c := '}') (by decide))
  exact hbraced.named "condition"

theorem ensures_header : ReadsInside Grammar.header (fun _ => []) (fun _ => True) := by
  have hnumber : ReadsSpelled Grammar.number (fun _ => []) (fun _ => True) :=
    ensures_numeral.mono fun _ _ hdigits => ⟨hdigits.spells, trivial⟩
  apply (hnumber.field "reqid").next
  intro _ id hid _
  apply (hnumber.field "groupid").bind
  rintro _ group ⟨hgroup, _⟩
  apply ensures_pure
  rw [List.append_nil]
  exact ⟨hid.append hgroup, trivial⟩

theorem ensures_requirement :
    ReadsInside Grammar.requirement Requirement.strings Requirement.IsLegible := by
  have halways : Spells alwaysMarker.toList [] := spells_of_all (by decide)
  apply ensures_header.next
  intro _ ids hids _
  apply ((ensures_condition.listOf halways).field "event").next
  intro _ events hevents heventsLegible
  apply ensures_body.bind
  rintro _ action ⟨haction, hactionLegible⟩
  apply ensures_pure
  rw [List.append_nil]
  exact ⟨hids.append (hevents.append haction), hactionLegible, heventsLegible⟩

end Tuple

end ReqConflict
