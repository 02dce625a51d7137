import ReqConflict.Proofs.Tuple.Value

/-!
# Reading printed tuples

A tuple can be printed whatever it holds, but no text can be read that has an
empty modifier or an empty restriction in it.  A tuple without them is legible.
For each part of the grammar this file shows what reading a printed part
yields.  Only an entity and a list can go wrong without a failure: an owner
that cannot be read is passed over, and a list ends before the member that
cannot be read.  The parenthesis that closes the field then is not there.
-/

namespace ReqConflict

def Noun.IsLegible (noun : Noun) : Prop :=
  ∀ modifier ∈ noun.modifiers.toList, modifier ≠ ""

/-- Neither the entity nor any of its owners has an empty modifier. -/
def Entity.IsLegible (entity : Entity) : Prop :=
  ∀ member ∈ entity.chain, member.noun.IsLegible

structure Condition.IsLegible (condition : Condition) : Prop where
  agent : condition.agent.IsLegible
  input : ∀ entity ∈ condition.input, entity.IsLegible
  output : ∀ entity ∈ condition.output, entity.IsLegible
  restriction : ∀ text ∈ condition.restriction, text ≠ ""

structure Requirement.IsLegible (requirement : Requirement) : Prop where
  body : requirement.toCondition.IsLegible
  events : ∀ event ∈ requirement.events, event.IsLegible

theorem Entity.isLegible_own_iff {noun : Noun} : (own noun).IsLegible ↔ noun.IsLegible := by
  simp [IsLegible, chain, Entity.noun]

theorem Entity.isLegible_part_iff {noun : Noun} {whole : Entity} :
    (part noun whole).IsLegible ↔ noun.IsLegible ∧ whole.IsLegible := by
  simp [IsLegible, chain, Entity.noun]

theorem Condition.isLegible_iff {condition : Condition} :
    condition.IsLegible ↔ condition.agent.IsLegible ∧
      (∀ entity ∈ condition.input, entity.IsLegible) ∧
      (∀ entity ∈ condition.output, entity.IsLegible) ∧
      ∀ text ∈ condition.restriction, text ≠ "" := by
  constructor
  · intro ⟨hagent, hinput, houtput, hrestriction⟩
    exact ⟨hagent, hinput, houtput, hrestriction⟩
  · intro ⟨hagent, hinput, houtput, hrestriction⟩
    exact ⟨hagent, hinput, houtput, hrestriction⟩

theorem Requirement.isLegible_iff {requirement : Requirement} :
    requirement.IsLegible ↔
      requirement.toCondition.IsLegible ∧ ∀ event ∈ requirement.events, event.IsLegible := by
  constructor
  · intro ⟨hbody, hevents⟩
    exact ⟨hbody, hevents⟩
  · intro ⟨hbody, hevents⟩
    exact ⟨hbody, hevents⟩

instance (noun : Noun) : Decidable noun.IsLegible :=
  inferInstanceAs (Decidable (∀ modifier ∈ noun.modifiers.toList, modifier ≠ ""))

instance (entity : Entity) : Decidable entity.IsLegible :=
  inferInstanceAs (Decidable (∀ member ∈ entity.chain, member.noun.IsLegible))

instance (condition : Condition) : Decidable condition.IsLegible :=
  decidable_of_iff' _ Condition.isLegible_iff

instance (requirement : Requirement) : Decidable requirement.IsLegible :=
  decidable_of_iff' _ Requirement.isLegible_iff

namespace Modifiers

theorem place_of_forall_lt {modifier : String} {others : List String}
    (hless : ∀ other ∈ others, modifier < other) : place modifier others = modifier :: others := by
  cases others with
  | nil => rfl
  | cons next others => rw [place, if_pos (hless next List.mem_cons_self)]

theorem ofList_toList (modifiers : Modifiers) : ofList modifiers.toList = modifiers := by
  obtain ⟨texts, hincreasing⟩ := modifiers
  have htexts : (ofList texts).toList = texts := by
    induction texts with
    | nil => rfl
    | cons text texts ih =>
        obtain ⟨hless, hothers⟩ := List.pairwise_cons.mp hincreasing
        have hplace : (ofList (text :: texts)).toList = place text (ofList texts).toList := rfl
        rw [hplace, ih hothers, place_of_forall_lt hless]
  cases hlist : ofList texts with
  | mk texts' _ =>
      rw [hlist] at htexts
      subst htexts
      rfl

end Modifiers

namespace Tuple

open Text Text.Parser Text.Escape

variable {rest : List Char}

/-! ## Entities -/

/-- A rest that can follow an entity. -/
def EndsItem (rest : List Char) : Prop :=
  ∀ c ∈ rest.head?, c = ')' ∨ c = ',' ∨ c = ']'

theorem endsItem_cons {c : Char} (hc : c = ')' ∨ c = ',' ∨ c = ']') (left : List Char) :
    EndsItem (c :: left) := by
  intro d hd
  have hcd : c = d := by simpa using hd
  exact hcd ▸ hc

theorem EndsItem.ends (hends : EndsItem rest) : Ends rest := by
  cases rest with
  | nil => trivial
  | cons c left =>
      rcases hends c rfl with rfl | rfl | rfl
      all_goals exact ⟨by decide, by decide⟩

theorem EndsItem.head?_ne (hends : EndsItem rest) {c : Char} (hc : c ≠ ')' ∧ c ≠ ',' ∧ c ≠ ']') :
    rest.head? ≠ some c := by
  intro hhead
  rcases hends c hhead with h | h | h
  · exact hc.1 h
  · exact hc.2.1 h
  · exact hc.2.2 h

theorem modifiers_reads (modifiers : List String) :
    Reads (many (between (char '[') Grammar.nonemptyValue (char ']')))
      (modifiers.flatMap modifier) (modifiers.map String.toList)
      (∀ text ∈ modifiers, text ≠ "") (fun rest => rest.head? ≠ some '[') ['['] := by
  have hitem : ∀ text : String, Reads (between (char '[') Grammar.nonemptyValue (char ']'))
      (modifier text) text.toList (text ≠ "") Anything [] := by
    intro text
    have hvalue := nonemptyValue_reads [] text.toList
    rw [encodeBeside_nil] at hvalue
    have hends : ∀ rest, Ends (']' :: rest) := fun rest => ⟨by decide, by decide⟩
    exact ((Reads.char '[').between hvalue hends (by simp)).congr (by simp)
  have htext : ∀ text : String, ∃ left, modifier text = '[' :: left :=
    fun text => ⟨_, rfl⟩
  have hreads := Reads.many hitem htext (fun _ => trivial) (by simp) modifiers
  exact hreads.restrict fun rest hrest => ⟨trivial, between_isOpen (char_isOpen hrest)⟩

def baseText (noun : Noun) : List Char :=
  if noun.base.isEmpty then systemMarker.toList
  else encodeBeside [allFlag] noun.base.toList

theorem head?_baseText_ne (noun : Noun) : (baseText noun ++ rest).head? ≠ some '[' := by
  rw [baseText]
  split
  · simp [systemMarker]
  · rename_i hbase
    apply head?_encodeBeside_ne (by decide) (by decide)
    simpa using hbase

theorem dropWord_baseText (noun : Noun) (hrest : Ends rest) :
    dropWord allFlag.toList (baseText noun ++ rest) = none := by
  rw [baseText]
  split
  · rfl
  · exact dropWord_encodeBeside (by simp) (by simp [allFlag, isReserved]) (by decide) hrest

theorem base_reads (noun : Noun) :
    Reads (named "entity base" (choice [Grammar.marker systemMarker [], Grammar.nonemptyValue]))
      (baseText noun) noun.base.toList True Ends [] := by
  apply Reads.named
  rw [baseText]
  split
  · rename_i hbase
    have hempty : noun.base.toList = [] := by simpa using hbase
    rw [hempty]
    apply Reads.choice_first
    exact (marker_reads systemMarker []).restrict fun _ _ => trivial
  · rename_i hbase
    have hfull : noun.base.toList ≠ [] := by simpa using hbase
    have hvalue := nonemptyValue_reads [allFlag] noun.base.toList
    apply Reads.choice_second _ (hvalue.congr (by simp [hfull]))
    intro rest _
    apply marker_isOpen
    have hhead : (encodeBeside [allFlag] noun.base.toList ++ rest).head? ≠ some '*' :=
      head?_encodeBeside_ne (by decide) (by decide) hfull
    exact dropWord_of_head? hhead _

theorem base_isOpen : (named "entity base"
    (choice [Grammar.marker systemMarker [], Grammar.nonemptyValue]) ('[' :: rest)).IsOpen := by
  apply named_isOpen
  apply choice_isOpen
  · exact marker_isOpen rfl []
  · exact nonemptyValue_isOpen ⟨by decide, by decide⟩

theorem dropWord_noun (noun : Noun) (hrest : Ends rest) :
    dropWord allFlag.toList (noun.modifiers.toList.flatMap modifier ++ (baseText noun ++ rest)) =
      none := by
  cases noun.modifiers.toList with
  | nil => exact dropWord_baseText noun hrest
  | cons text texts =>
      rw [List.flatMap_cons, modifier]
      rfl

/-- What stands behind a noun decides about the owner. -/
theorem noun_reads (noun : Noun) {owners : Nat} {owner : List Char} {whole : Option Entity}
    {isLegible : Prop}
    (howner : Reads (optional (between (word ownerOpening) (Grammar.entityUpTo owners)
      (char ']'))) owner whole isLegible EndsItem ['['])
    (hends : ∀ rest, EndsItem rest → Ends (owner ++ rest)) :
    Reads (Grammar.entityUpTo (owners + 1)) (Tuple.noun noun ++ owner)
      (Entity.ofNoun noun whole) (noun.IsLegible ∧ isLegible) EndsItem ['['] := by
  have htext : Tuple.noun noun ++ owner = flag allFlag noun.isAll ++
      (noun.modifiers.toList.flatMap modifier ++ (baseText noun ++ owner)) := by
    simp [Tuple.noun, baseText]
  have hnoun : ({ base := String.ofList noun.base.toList
                  modifiers :=
                    .ofList ((noun.modifiers.toList.map String.toList).map String.ofList)
                  isAll := noun.isAll } : Noun) = noun := by
    have hmodifiers : (noun.modifiers.toList.map String.toList).map String.ofList =
        noun.modifiers.toList := by
      simp [Function.comp_def]
    rw [hmodifiers, Modifiers.ofList_toList, String.ofList_toList]
  have hstart : ∀ rest, EndsItem rest →
      dropWord allFlag.toList
        (noun.modifiers.toList.flatMap modifier ++ (baseText noun ++ owner) ++ rest) = none := by
    intro rest hrest
    rw [List.append_assoc, List.append_assoc]
    exact dropWord_noun noun (hends rest hrest)
  have hreads : Reads (Grammar.entityUpTo (owners + 1))
      (flag allFlag noun.isAll ++
        (noun.modifiers.toList.flatMap modifier ++ (baseText noun ++ owner)))
      (Entity.ofNoun noun whole) (True ∧ noun.IsLegible ∧ True ∧ isLegible) EndsItem ['['] := by
    rw [Grammar.entityUpTo]
    apply (flagged_reads allFlag noun.isAll).bind _ (fun rest hrest _ => hstart rest hrest)
      (by simp)
    apply (modifiers_reads noun.modifiers.toList).bind
    · apply (base_reads noun).bind _ hends (by simp)
      simp only [hnoun]
      exact howner.map (Entity.ofNoun noun)
    · intro rest _
      rw [List.append_assoc]
      exact head?_baseText_ne noun
    · intro modifiers c hc left
      have hc' : c = '[' := by simpa using hc
      subst hc'
      exact (bind_isOpen base_isOpen).stopsAt ['[']
  rw [htext]
  exact hreads.congr (by simp)

theorem owner_isOpen {owners : Nat} (hrest : EndsItem rest) :
    (between (word ownerOpening) (Grammar.entityUpTo owners) (char ']') rest).IsOpen := by
  apply between_isOpen
  apply word_isOpen
  exact dropWord_of_head? (hrest.head?_ne (by decide)) _

theorem own_reads (owners : Nat) (noun : Noun) :
    Reads (Grammar.entityUpTo (owners + 1)) (Tuple.entity (.own noun)) (.own noun)
      (Entity.own noun).IsLegible EndsItem ['['] := by
  have howner : Reads (optional (between (word ownerOpening) (Grammar.entityUpTo owners)
      (char ']'))) [] none True EndsItem ['['] :=
    (Reads.optional_none.restrict fun _ hrest => owner_isOpen hrest).widen (by simp)
  have hreads := noun_reads noun howner fun rest hrest => hrest.ends
  rw [List.append_nil] at hreads
  exact hreads.congr (by simp [Entity.isLegible_own_iff])

theorem part_reads {owners : Nat} {whole : Entity} (noun : Noun)
    (hwhole : Reads (Grammar.entityUpTo owners) (Tuple.entity whole) whole whole.IsLegible
      EndsItem ['[']) :
    Reads (Grammar.entityUpTo (owners + 1)) (Tuple.entity (.part noun whole))
      (.part noun whole) (Entity.part noun whole).IsLegible EndsItem ['['] := by
  have hclosing : ∀ rest, EndsItem (']' :: rest) := endsItem_cons (Or.inr (Or.inr rfl))
  have hclosed : Reads
      (between (word ownerOpening) (Grammar.entityUpTo owners) (char ']'))
      (ownerOpening.toList ++ (Tuple.entity whole ++ [']'])) whole whole.IsLegible
      Anything [] := (Reads.word ownerOpening).between hwhole hclosing (by decide)
  have howner := (Reads.optional_some hclosed).restrict fun rest (_ : EndsItem rest) => trivial
  have hreads := noun_reads noun howner (fun rest _ => ⟨by decide, by decide⟩)
  have htext : Tuple.entity (.part noun whole) =
      Tuple.noun noun ++ (ownerOpening.toList ++ (Tuple.entity whole ++ [']'])) := by
    simp [Tuple.entity]
  rw [htext]
  exact hreads.congr Entity.isLegible_part_iff

theorem entityUpTo_reads (entity : Entity) : ∀ owners, entity.chain.length ≤ owners →
    Reads (Grammar.entityUpTo owners) (Tuple.entity entity) entity entity.IsLegible
      EndsItem ['['] := by
  induction entity with
  | own noun =>
      intro owners howners
      cases owners with
      | zero => simp [Entity.chain] at howners
      | succ owners => exact own_reads owners noun
  | part noun whole ih =>
      intro owners howners
      cases owners with
      | zero => simp [Entity.chain] at howners
      | succ owners =>
          apply part_reads noun
          apply ih
          simpa [Entity.chain] using howners

/-- Every owner has a bracket of its own, so the text is long enough for its
chain of owners. -/
theorem chain_length_le (entity : Entity) :
    entity.chain.length ≤ (Tuple.entity entity).length + 1 := by
  induction entity with
  | own noun => simp [Entity.chain]
  | part noun whole ih =>
      simp only [Entity.chain, Tuple.entity, List.length_cons, List.length_append]
      omega

theorem entity_reads (entity : Entity) :
    Reads Grammar.entity (Tuple.entity entity) entity entity.IsLegible EndsItem ['['] := by
  have hlength : ∀ rest : List Char,
      entity.chain.length ≤ (Tuple.entity entity ++ rest).length + 1 := by
    intro rest
    have hchain := chain_length_le entity
    rw [List.length_append]
    omega
  constructor
  · intro hlegible rest hrest
    exact (entityUpTo_reads entity _ (hlength rest)).done hlegible rest hrest
  · intro hnot rest hrest
    exact (entityUpTo_reads entity _ (hlength rest)).stopsAt hnot rest hrest

theorem dropWord_marker_noun (noun : Noun) (rest : List Char) :
    dropWord voidMarker.toList (Tuple.noun noun ++ rest) = none := by
  have htext : Tuple.noun noun ++ rest = flag allFlag noun.isAll ++
      (noun.modifiers.toList.flatMap modifier ++ (baseText noun ++ rest)) := by
    simp [Tuple.noun, baseText]
  rw [htext]
  cases noun.isAll with
  | true => rfl
  | false =>
      cases noun.modifiers.toList with
      | cons text texts =>
          rw [List.flatMap_cons, modifier]
          rfl
      | nil =>
          rw [baseText]
          split
          · rfl
          · rename_i hbase
            have hhead : (encodeBeside [allFlag] noun.base.toList ++ rest).head? ≠ some '*' :=
              head?_encodeBeside_ne (by decide) (by decide) (by simpa using hbase)
            exact dropWord_of_head? hhead _

/-- No entity is written like an empty list. -/
theorem dropWord_entity (entity : Entity) (rest : List Char) :
    dropWord voidMarker.toList (Tuple.entity entity ++ rest) = none := by
  cases entity with
  | own noun => exact dropWord_marker_noun noun rest
  | part noun whole =>
      rw [Tuple.entity, List.append_assoc, List.append_assoc, List.append_assoc]
      exact dropWord_marker_noun noun _

theorem joined_cons (text : List Char) (texts : List (List Char)) :
    joined (text :: texts) = text ++ texts.flatMap fun other => itemSeparator.toList ++ other := by
  induction texts generalizing text with
  | nil => simp [joined, List.intercalate]
  | cons other texts ih =>
      have hothers := ih other
      unfold joined at hothers ⊢
      rw [List.intercalate_cons_cons, hothers, List.flatMap_cons]
      simp

section List

variable {ι α : Type} {item : Parser α} {itemText : ι → List Char} {read : ι → α}
  {isLegible : ι → Prop} {stops : List Char}

/-- A list is read member by member, unless it starts like the marker for an
empty list. -/
theorem listOf_reads (marker : String)
    (hitem : ∀ i, Reads item (itemText i) (read i) (isLegible i) EndsItem stops)
    (hmarker : ∀ i rest, EndsItem rest → dropWord marker.toList (itemText i ++ rest) = none)
    (hstops : ',' ∉ stops) (items : List ι) :
    Reads (Grammar.listOf marker item) (list marker (items.map itemText)) (items.map read)
      (∀ i ∈ items, isLegible i) (fun rest => EndsItem rest ∧ rest.head? ≠ some ',')
      (',' :: stops) := by
  cases items with
  | nil =>
      have hempty : Reads (Grammar.listOf marker item) marker.toList [] True
          (fun rest => EndsItem rest ∧ rest.head? ≠ some ',') [] := by
        apply Reads.choice_first
        exact (marker_reads marker []).restrict fun _ _ => trivial
      exact (hempty.congr (by simp)).widen (by simp)
  | cons first items =>
      have hseparator : itemSeparator.toList = ',' :: [' '] := by decide
      have hcomma : ∀ left, EndsItem (',' :: left) := endsItem_cons (by simp)
      have htext : list marker ((first :: items).map itemText) = itemText first ++
          items.flatMap fun other => itemSeparator.toList ++ itemText other := by
        simp [list, joined_cons, List.flatMap_map]
      rw [htext]
      apply Reads.choice_second
      · intro rest hrest
        apply marker_isOpen
        rw [List.append_assoc]
        apply hmarker
        exact ends_flatMap (fun other => ⟨_, rfl⟩) hcomma items hrest.1
      · exact Reads.separated1 hitem hseparator hcomma hstops first items

end List

/-! ## Fields -/

theorem field_reads {α : Type} {part : Parser α} {text : List Char} {value : α}
    {isLegible : Prop} {ends : List Char → Prop} {stops : List Char} (name : String)
    (hpart : Reads part text value isLegible ends stops) (hends : ∀ rest, ends (')' :: rest))
    (hstops : ')' ∉ stops) :
    Reads (named name (Grammar.field part)) (parenthesized text) value isLegible Anything [] := by
  apply Reads.named
  exact (Reads.char '(').between hpart hends hstops

theorem nextField_reads {α β : Type} {part : Parser α} {next : α → Parser β}
    {text text' : List Char} {value : α} {value' : β} {isLegible isLegible' : Prop}
    (hpart : Reads part text value isLegible Anything [])
    (hnext : Reads (next value) text' value' isLegible' Anything []) :
    Reads (part >>= fun value => Grammar.nextField >>= fun _ => next value)
      (text ++ (fieldSeparator.toList ++ text')) value' (isLegible ∧ isLegible') Anything [] := by
  have hseparated : Reads (Grammar.nextField >>= fun _ => next value)
      (fieldSeparator.toList ++ text') value' (True ∧ isLegible') Anything [] :=
    (Reads.word fieldSeparator).followed hnext
  rw [true_and] at hseparated
  exact hpart.followed hseparated

theorem fields_cons (text : List Char) (next : List Char) (texts : List (List Char)) :
    fields (text :: next :: texts) =
      parenthesized text ++ (fieldSeparator.toList ++ fields (next :: texts)) := by
  simp [fields]

theorem fields_singleton (text : List Char) : fields [text] = parenthesized text := by
  simp [fields]

theorem dropWord_predicate (operation : Operation) {flag : String} {rest : List Char}
    (hflag : flag ∈ [ableFlag, notFlag]) (hrest : Ends rest) :
    dropWord flag.toList
      (encodeBeside [ableFlag, notFlag] operation.predicate.toList ++ rest) = none := by
  have hletters : ∀ flag ∈ [ableFlag, notFlag], ∀ c ∈ flag.toList, isReserved c = false := by
    simp [ableFlag, notFlag, isReserved]
  have hne : ∀ flag ∈ [ableFlag, notFlag], flag.toList ≠ [] := by
    simp [ableFlag, notFlag]
  exact dropWord_encodeBeside hflag (hletters flag hflag) (hne flag hflag) hrest

theorem operation_reads (operation : Operation) :
    Reads Grammar.operation (Tuple.operation operation) operation True Ends [] := by
  have htext : Tuple.operation operation = flag ableFlag operation.able ++
      (flag notFlag operation.negated ++
        encodeBeside [ableFlag, notFlag] operation.predicate.toList) := by
    simp [Tuple.operation]
  have hreads : Reads Grammar.operation
      (flag ableFlag operation.able ++ (flag notFlag operation.negated ++
        encodeBeside [ableFlag, notFlag] operation.predicate.toList))
      operation (True ∧ True ∧ True) Ends [] := by
    unfold Grammar.operation
    apply (flagged_reads ableFlag operation.able).bind
    · apply (flagged_reads notFlag operation.negated).bind
      · have hvalue := (value_reads [ableFlag, notFlag] operation.predicate.toList).map
          fun predicate => ({ predicate := String.ofList predicate, negated := operation.negated,
                              able := operation.able } : Operation)
        simpa using hvalue
      · intro rest hrest _
        exact dropWord_predicate operation (by decide) hrest
      · simp
    · intro rest hrest _
      cases hnegated : operation.negated with
      | false => exact dropWord_predicate operation (by decide) hrest
      | true => rfl
    · simp
  rw [htext]
  exact hreads.congr (by simp)

theorem restriction_reads (text : String) :
    Reads Grammar.restriction (encode text.toList) text (text ≠ "") EndsItem [] := by
  have hvalue := nonemptyValue_reads [] text.toList
  rw [encodeBeside_nil] at hvalue
  have hreads := (hvalue.restrict fun rest hrest => EndsItem.ends hrest).map String.ofList
  rw [String.ofList_toList] at hreads
  exact hreads.congr (by simp)

theorem dropWord_restriction (text : String) (rest : List Char) (hrest : EndsItem rest) :
    dropWord voidMarker.toList (encode text.toList ++ rest) = none := by
  have hhead : (encode text.toList ++ rest).head? ≠ some '*' := by
    cases htext : text.toList with
    | nil => exact hrest.head?_ne (by decide)
    | cons c value =>
        rw [← encodeBeside_nil]
        exact head?_encodeBeside_ne (by decide) (by decide) (by simp)
  exact dropWord_of_head? hhead _

/-! ## Conditions and requirements -/

theorem entities_reads (entities : List Entity) :
    Reads (Grammar.listOf voidMarker Grammar.entity)
      (list voidMarker (entities.map Tuple.entity)) entities
      (∀ entity ∈ entities, entity.IsLegible)
      (fun rest => EndsItem rest ∧ rest.head? ≠ some ',') [',', '['] := by
  have hreads := listOf_reads voidMarker entity_reads (fun entity rest _ => dropWord_entity entity rest)
    (by simp) entities
  simpa using hreads

theorem restrictions_reads (texts : List String) :
    Reads (Grammar.listOf voidMarker Grammar.restriction)
      (list voidMarker (texts.map fun text => encode text.toList)) texts
      (∀ text ∈ texts, text ≠ "") (fun rest => EndsItem rest ∧ rest.head? ≠ some ',') [','] := by
  have hreads := listOf_reads voidMarker restriction_reads dropWord_restriction (by simp) texts
  simpa using hreads

/-- The field of a list is closed by a parenthesis, which no fault stops at. -/
theorem endsList_closing (rest : List Char) :
    EndsItem (')' :: rest) ∧ (')' :: rest).head? ≠ some ',' := by
  have hhead : (')' :: rest).head? ≠ some ',' := by simp
  exact ⟨endsItem_cons (Or.inl rfl) rest, hhead⟩

theorem body_reads (condition : Condition) :
    Reads Grammar.body (fields (body condition)) condition condition.IsLegible Anything [] := by
  have hagent := field_reads "agent" (entity_reads condition.agent)
    (endsItem_cons (Or.inl rfl)) (by decide)
  have hoperation := field_reads "operation" (operation_reads condition.operation)
    (fun rest => ⟨by decide, by decide⟩) (by decide)
  have hinput := field_reads "input" (entities_reads condition.input) endsList_closing (by decide)
  have houtput := field_reads "output" (entities_reads condition.output) endsList_closing
    (by decide)
  have hrestriction := field_reads "restriction" (restrictions_reads condition.restriction)
    endsList_closing (by decide)
  have hreads : Reads Grammar.body (fields (body condition)) condition
      (condition.agent.IsLegible ∧ True ∧ (∀ entity ∈ condition.input, entity.IsLegible) ∧
        (∀ entity ∈ condition.output, entity.IsLegible) ∧
        ∀ text ∈ condition.restriction, text ≠ "") Anything [] := by
    rw [body, fields_cons, fields_cons, fields_cons, fields_cons, fields_singleton]
    unfold Grammar.body
    apply nextField_reads hagent
    apply nextField_reads hoperation
    apply nextField_reads hinput
    apply nextField_reads houtput
    exact hrestriction.map fun restriction =>
      ({ agent := condition.agent, operation := condition.operation, input := condition.input,
         output := condition.output, restriction := restriction } : Condition)
  apply hreads.congr
  rw [Condition.isLegible_iff, true_and]

theorem condition_reads (condition : Condition) :
    Reads Grammar.condition (Tuple.condition condition) condition condition.IsLegible
      Anything [] := by
  have hclosing : ∀ rest, Anything ('}' :: rest) := fun _ => trivial
  have hreads : Reads (between (char '{') Grammar.body (char '}'))
      (['{'] ++ (fields (body condition) ++ ['}'])) condition condition.IsLegible Anything [] :=
    (Reads.char '{').between (body_reads condition) hclosing (by simp)
  exact hreads.named "condition"

theorem events_reads (events : List Condition) :
    Reads (Grammar.listOf alwaysMarker Grammar.condition)
      (list alwaysMarker (events.map Tuple.condition)) events
      (∀ event ∈ events, event.IsLegible)
      (fun rest => EndsItem rest ∧ rest.head? ≠ some ',') [','] := by
  have hitem : ∀ event : Condition, Reads Grammar.condition (Tuple.condition event) event
      event.IsLegible EndsItem [] :=
    fun event => (condition_reads event).restrict fun _ _ => trivial
  have hreads := listOf_reads alwaysMarker hitem (fun event rest _ => rfl) (by simp) events
  simpa using hreads

/-- The text of two numbers in parentheses. -/
def IsHeader (text : List Char) (id group : UInt32) : Prop :=
  ∃ first second, Numeral first id ∧ Numeral second group ∧
    text = parenthesized first ++ (fieldSeparator.toList ++ parenthesized second)

theorem IsHeader.reads {text : List Char} {id group : UInt32} (hheader : IsHeader text id group) :
    Reads Grammar.header text (id, group) True Anything [] := by
  obtain ⟨first, second, hfirst, hsecond, rfl⟩ := hheader
  have hdigit : ∀ rest : List Char, ∀ c ∈ (')' :: rest).head?, c.isDigit = false := by
    intro rest c hc
    have hc' : ')' = c := by simpa using hc
    rw [← hc']
    rfl
  have hid := field_reads "reqid" hfirst.reads hdigit (by simp)
  have hgroup := field_reads "groupid" hsecond.reads hdigit (by simp)
  have hpair := hgroup.map fun group => (id, group)
  have hreads : Reads Grammar.header
      (parenthesized first ++ (fieldSeparator.toList ++ parenthesized second)) (id, group)
      (True ∧ True) Anything [] := nextField_reads hid hpair
  rw [true_and] at hreads
  exact hreads

/-- The two numbers in front of a requirement. -/
def headerText (requirement : Requirement) : List Char :=
  parenthesized (number requirement.id) ++
    (fieldSeparator.toList ++ parenthesized (number requirement.group))

theorem isHeader_headerText (requirement : Requirement) :
    IsHeader (headerText requirement) requirement.id requirement.group :=
  ⟨_, _, numeral_number requirement.id, numeral_number requirement.group, rfl⟩

theorem requirement_eq_append (requirement : Requirement) :
    Tuple.requirement requirement = headerText requirement ++
      (fieldSeparator.toList ++
        (parenthesized (list alwaysMarker (requirement.events.map Tuple.condition)) ++
          (fieldSeparator.toList ++ fields (body requirement.toCondition)))) := by
  rw [Tuple.requirement, fields_cons, fields_cons, body, fields_cons, headerText]
  simp only [List.append_assoc]

theorem requirement_reads (requirement : Requirement) :
    Reads Grammar.requirement (Tuple.requirement requirement) requirement
      requirement.IsLegible Anything [] := by
  have hheader := (isHeader_headerText requirement).reads
  have hevents := field_reads "event" (events_reads requirement.events) endsList_closing
    (by decide)
  have hbody := (body_reads requirement.toCondition).map fun action =>
    ({ action with id := requirement.id, group := requirement.group,
                   events := requirement.events } : Requirement)
  have hreads : Reads Grammar.requirement
      (headerText requirement ++
        (fieldSeparator.toList ++
          (parenthesized (list alwaysMarker (requirement.events.map Tuple.condition)) ++
            (fieldSeparator.toList ++ fields (body requirement.toCondition)))))
      requirement
      (True ∧ (∀ event ∈ requirement.events, event.IsLegible) ∧
        requirement.toCondition.IsLegible) Anything [] :=
    nextField_reads hheader (nextField_reads hevents hbody)
  rw [requirement_eq_append]
  apply hreads.congr
  rw [Requirement.isLegible_iff, true_and, and_comm]

end Tuple

end ReqConflict
