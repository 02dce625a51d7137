import ReqConflict.Proofs.Rule.Compile
import ReqConflict.Proofs.Text.Words

/-!
# How rules are written

Compiling turns a definition into the one rule that the definition spells, if
the registry and the rules above allow that rule, and into nothing otherwise.
A rule has several spellings: words are separated by blanks of any kind, the
index of a loop is a number or a text, the parts of a loop come in any order,
and labels, names and lists may be tagged.
-/

namespace ReqConflict

def Side.number : Side → Int
  | first => 1
  | second => 2

/-- The label of a loop. -/
def Quantifier.label : Quantifier → String
  | any => "or"
  | all => "and"

namespace Rule

def relationWords (left : Side) (field1 : String) (relation : Relation) (right : Side)
    (field2 : String) : List (List Char) :=
  [left.index, field1, relation.name, right.index, field2].map String.toList

/-- A number or a text that stands for the side. -/
def IsIndex (value : Yaml.Value) (side : Side) : Prop :=
  value = .number (.integer side.number) ∨ value = .string side.index

/-- The entries of a loop that say what it goes through. -/
structure SpellsHead (entries : List (Yaml.Value × Yaml.Value)) (quantifier : Quantifier)
    (owner : Side) (field : String) : Prop where
  label : ∃ value, Yaml.Value.find? "label" entries = some value ∧
    value.string? = some quantifier.label
  index : ∃ value, Yaml.Value.find? "index" entries = some value ∧ IsIndex value owner
  field : ∃ value, Yaml.Value.find? "field" entries = some value ∧ value.string? = some field

mutual

/-- The value is a definition of the rule. -/
inductive Spells : Yaml.Value → Rule → Prop
  | relation {text field1 field2 : String} {left right : Side} {name : Relation}
      (hwords : Text.Spaced (relationWords left field1 name right field2) text.toList) :
      Spells (.string text) (.relation left field1 name right field2)
  | negation {label content : Yaml.Value} {body : Rule} (hlabel : label.string? = some "not")
      (hbody : Spells content body) : Spells (.mapping [(label, content)]) (.negation body)
  | conjunction {label content : Yaml.Value} {values : List Yaml.Value} {items : List Rule}
      (hlabel : label.string? = some "and") (hlist : content.sequence? = some values)
      (hitems : SpellsEach values items) :
      Spells (.mapping [(label, content)]) (.conjunction items)
  | disjunction {label content : Yaml.Value} {values : List Yaml.Value} {items : List Rule}
      (hlabel : label.string? = some "or") (hlist : content.sequence? = some values)
      (hitems : SpellsEach values items) :
      Spells (.mapping [(label, content)]) (.disjunction items)
  | call {label content : Yaml.Value} {index : Nat} {name : String} {body : Rule}
      (hlabel : label.string? = some "function") (hname : content.string? = some name) :
      Spells (.mapping [(label, content)]) (.named index name body)
  | loop {label content condition : Yaml.Value} {entries : List (Yaml.Value × Yaml.Value)}
      {quantifier : Quantifier} {owner : Side} {field : String} {body : Rule}
      (hlabel : label.string? = some "for") (hentries : content.mapping? = some entries)
      (hhead : SpellsHead entries quantifier owner field)
      (hcondition : Yaml.Value.find? "condition" entries = some condition)
      (hbody : Spells condition body) :
      Spells (.mapping [(label, content)]) (.loop quantifier owner field body)

inductive SpellsEach : List Yaml.Value → List Rule → Prop
  | nil : SpellsEach [] []
  | cons {value : Yaml.Value} {item : Rule} {values : List Yaml.Value} {items : List Rule}
      (hitem : Spells value item) (hitems : SpellsEach values items) :
      SpellsEach (value :: values) (item :: items)

end

def loopEntries (quantifier : Quantifier) (owner : Side) (field : String)
    (condition : Yaml.Value) : List (Yaml.Value × Yaml.Value) :=
  [(.string "label", .string quantifier.label), (.string "index", .number (.integer owner.number)),
    (.string "field", .string field), (.string "condition", condition)]

mutual

/-- The definition that a rule is written as; an interlock has none. -/
def write : Rule → Yaml.Value
  | relation left field1 name right field2 =>
      .string (String.ofList
        ([' '].intercalate (relationWords left field1 name right field2)))
  | negation body => .mapping [(.string "not", write body)]
  | conjunction items => .mapping [(.string "and", .sequence (writeEach items))]
  | disjunction items => .mapping [(.string "or", .sequence (writeEach items))]
  | named _ name _ => .mapping [(.string "function", .string name)]
  | loop quantifier owner field body =>
      .mapping [(.string "for", .mapping (loopEntries quantifier owner field (write body)))]
  | interlock .. => .null

def writeEach : List Rule → List Yaml.Value
  | [] => []
  | item :: items => write item :: writeEach items

end

mutual

/-- What a registry and the rules above allow: relations of words that pass the
check, lists with an item, calls of what is found above, and loops through
declared fields. -/
def IsDefinable (context : Context) : Rule → Prop
  | relation _ field1 name _ field2 =>
      Text.IsWord field1.toList ∧ Text.IsWord field2.toList ∧
        ∃ type, context.registry.check field1 name field2 = .ok type
  | negation body => IsDefinable context body
  | conjunction items | disjunction items => items ≠ [] ∧ AreDefinable context items
  | named index name body => NamedRule.find? name context.above = some (index, body)
  | loop _ _ field body =>
      (∃ type, context.registry.fieldType field = .ok type) ∧ IsDefinable context body
  | interlock .. => False

def AreDefinable (context : Context) : List Rule → Prop
  | [] => True
  | item :: items => IsDefinable context item ∧ AreDefinable context items

end

variable {context : Context} {rule : Rule} {entries : List (Yaml.Value × Yaml.Value)}

theorem areDefinable_iff {items : List Rule} :
    AreDefinable context items ↔ ∀ item ∈ items, item.IsDefinable context := by
  induction items with
  | nil => simp [AreDefinable]
  | cons item items ih => rw [AreDefinable, ih, List.forall_mem_cons]

theorem loopSide?_eq_some_iff {value : Yaml.Value} {side : Side} :
    Context.loopSide? value = some side ↔ IsIndex value side := by
  constructor
  · intro hside
    unfold Context.loopSide? at hside
    split at hside
    · cases hside
      exact Or.inl rfl
    · cases hside
      exact Or.inl rfl
    · rw [Side.ofIndex?_eq_some_iff] at hside
      rw [hside]
      exact Or.inr rfl
    · cases hside
  · rintro (rfl | rfl)
    · cases side <;> rfl
    · cases side <;> rfl

/-- Words that name sides and a relation, and pass the check, are read as they stand. -/
theorem relation_of_check {text field1 field2 type : String} {left right : Side} {name : Relation}
    (hwords : Text.words text.toList = relationWords left field1 name right field2)
    (hcheck : context.registry.check field1 name field2 = .ok type) :
    context.relation text = .ok (.relation left field1 name right field2) := by
  have hside : ∀ (flaw : RuleFlaw) (side : Side),
      context.orFlaw flaw (Side.ofIndex? side.index) = .ok side := by
    intro flaw side
    rw [orFlaw_eq_ok_iff, Side.ofIndex?_eq_some_iff]
  have hname : Registry.readRelation name.name = .ok name := readRelation_eq_ok_iff.mpr rfl
  simp only [Context.relation, hwords, relationWords, List.map_cons, List.map_nil,
    String.ofList_toList, hside, hname, hcheck, bind, Except.bind]
  rfl

theorem relation_eq_ok_iff {text : String} :
    context.relation text = .ok rule ↔ Spells (.string text) rule ∧ rule.IsDefinable context := by
  constructor
  · intro hrule
    obtain ⟨left, field1, name, right, field2, type, htexts, hcheck, rfl⟩ :=
      exists_of_relation hrule
    have hwords := congrArg (List.map String.toList) htexts
    simp only [List.map_map, Function.comp_def, String.toList_ofList, List.map_id'] at hwords
    have hspaced := Text.words_eq_iff.mp hwords
    have hfields := hspaced.isWord
    simp only [List.forall_mem_map] at hfields
    exact ⟨.relation hspaced, hfields field1 (by simp), hfields field2 (by simp), type, hcheck⟩
  · rintro ⟨hspells, hdefinable⟩
    cases hspells with
    | relation hwords =>
        obtain ⟨_, _, type, hcheck⟩ := hdefinable
        exact relation_of_check hwords.words_eq hcheck

theorem loopPart_eq_ok_iff {key : String} {value : Yaml.Value} :
    context.loopPart entries key = .ok value ↔ Yaml.Value.find? key entries = some value :=
  orFlaw_eq_ok_iff

def loopQuantifier? (value : Yaml.Value) : Option Quantifier :=
  match value.string? with
  | some "or" => some .any
  | some "and" => some .all
  | _ => none

theorem loopQuantifier?_eq_some_iff {value : Yaml.Value} {quantifier : Quantifier} :
    loopQuantifier? value = some quantifier ↔ value.string? = some quantifier.label := by
  constructor
  · intro hquantifier
    unfold loopQuantifier? at hquantifier
    split at hquantifier
    · rename_i hlabel
      cases hquantifier
      exact hlabel
    · rename_i hlabel
      cases hquantifier
      exact hlabel
    · cases hquantifier
  · intro hlabel
    rw [loopQuantifier?, hlabel]
    cases quantifier <;> rfl

theorem loopHead_eq :
    context.loopHead entries = do
      let label ← context.loopPart entries "label"
      let quantifier ← context.orFlaw .loopLabel (loopQuantifier? label)
      let index ← context.loopPart entries "index"
      let side ← context.orFlaw .loopIndex (Context.loopSide? index)
      let named ← context.loopPart entries "field"
      let field ← context.orFlaw .loopField named.string?
      let _ ← context.registry.fieldType field
      return (quantifier, side, field) := by
  unfold Context.loopHead
  refine congrArg (context.loopPart entries "label" >>= ·) (funext fun label => ?_)
  split
  · rename_i hlabel
    rw [loopQuantifier?, hlabel]
    rfl
  · rename_i hlabel
    rw [loopQuantifier?, hlabel]
    rfl
  · rename_i hor hand
    have hnone : loopQuantifier? label = none := by
      rw [Option.eq_none_iff_forall_ne_some]
      intro quantifier hquantifier
      rw [loopQuantifier?_eq_some_iff] at hquantifier
      cases quantifier with
      | any => exact hor hquantifier
      | all => exact hand hquantifier
    rw [hnone]
    rfl

theorem loopHead_eq_ok_iff {quantifier : Quantifier} {owner : Side} {field : String} :
    context.loopHead entries = .ok (quantifier, owner, field) ↔
      SpellsHead entries quantifier owner field ∧
        ∃ type, context.registry.fieldType field = .ok type := by
  simp only [loopHead_eq, bind_eq_ok_iff, loopPart_eq_ok_iff, orFlaw_eq_ok_iff,
    loopQuantifier?_eq_some_iff, loopSide?_eq_some_iff]
  constructor
  · rintro ⟨label, hlabel, _, hquantifier, index, hindex, _, hside, named, hnamed, _, hfield, type,
      htype, ⟨⟩⟩
    exact ⟨⟨⟨label, hlabel, hquantifier⟩, ⟨index, hindex, hside⟩, ⟨named, hnamed, hfield⟩⟩,
      type, htype⟩
  · rintro ⟨⟨⟨label, hlabel, hquantifier⟩, ⟨index, hindex, hside⟩, ⟨named, hnamed, hfield⟩⟩,
      type, htype⟩
    exact ⟨label, hlabel, quantifier, hquantifier, index, hindex, owner, hside, named, hnamed,
      field, hfield, type, htype, rfl⟩

/-! ## Definitions -/

theorem isDefinable_of_compile {value : Yaml.Value} (hrule : compile context value = .ok rule) :
    rule.IsDefinable context := by
  have hcloses : context.Closes (IsDefinable context) :=
    { relation := fun text rule hrule => (relation_eq_ok_iff.mp hrule).2
      call := by
        rintro content rule hrule
        obtain ⟨name, index, body, _, hfind, rfl⟩ := call_eq_ok_iff.mp hrule
        exact hfind
      negation := fun body hbody => hbody
      conjunction := fun items hne hitems => ⟨hne, areDefinable_iff.mpr hitems⟩
      disjunction := fun items hne hitems => ⟨hne, areDefinable_iff.mpr hitems⟩
      loop := fun entries quantifier owner field body hhead hbody =>
        ⟨(loopHead_eq_ok_iff.mp hhead).2, hbody⟩ }
  exact hcloses.compile value rule hrule

mutual

theorem spells_of_compile :
    ∀ (value : Yaml.Value) (rule : Rule), compile context value = .ok rule → Spells value rule
  | .string text, rule, hrule => (relation_eq_ok_iff.mp hrule).1
  | .mapping [(label, content)], rule, hrule => by
      rw [compile] at hrule
      split at hrule
      · rename_i hlabel
        obtain ⟨items, hitems, hrule⟩ := bind_eq_ok_iff.mp hrule
        cases hrule
        obtain ⟨values, hlist, hspells⟩ := spells_of_compileList "and" content items hitems
        exact .conjunction hlabel hlist hspells
      · rename_i hlabel
        obtain ⟨items, hitems, hrule⟩ := bind_eq_ok_iff.mp hrule
        cases hrule
        obtain ⟨values, hlist, hspells⟩ := spells_of_compileList "or" content items hitems
        exact .disjunction hlabel hlist hspells
      · rename_i hlabel
        obtain ⟨body, hbody, hrule⟩ := bind_eq_ok_iff.mp hrule
        cases hrule
        exact .negation hlabel (spells_of_compile content body hbody)
      · rename_i hlabel
        obtain ⟨name, index, body, hname, _, rfl⟩ := call_eq_ok_iff.mp hrule
        exact .call hlabel hname
      · rename_i hlabel
        obtain ⟨entries, hentries, quantifier, owner, field, condition, body, rfl, hhead,
          hcondition, hbody⟩ := spells_of_compileLoop content rule hrule
        exact .loop hlabel hentries hhead hcondition hbody
      · cases hrule
      · cases hrule
  | .mapping [], _, hrule | .mapping (_ :: _ :: _), _, hrule => by cases hrule
  | .null, _, hrule | .bool _, _, hrule | .number _, _, hrule | .sequence _, _, hrule
  | .tagged .., _, hrule => by cases hrule

theorem spells_of_compileList (label : String) :
    ∀ (value : Yaml.Value) (items : List Rule), compileList context label value = .ok items →
      ∃ values, value.sequence? = some values ∧ SpellsEach values items
  | .sequence (value :: values), items, hitems => by
      obtain ⟨rule, hrule, hitems⟩ := bind_eq_ok_iff.mp hitems
      obtain ⟨rules, hrules, hitems⟩ := bind_eq_ok_iff.mp hitems
      cases hitems
      exact ⟨value :: values, rfl,
        .cons (spells_of_compile value rule hrule) (spells_of_compileEach values rules hrules)⟩
  | .tagged _ value, items, hitems => spells_of_compileList label value items hitems
  | .sequence [], _, hitems | .null, _, hitems | .bool _, _, hitems | .number _, _, hitems
  | .string _, _, hitems | .mapping _, _, hitems => by cases hitems

theorem spells_of_compileEach :
    ∀ (values : List Yaml.Value) (items : List Rule),
      compileEach context values = .ok items → SpellsEach values items
  | [], items, hitems => by
      cases hitems
      exact .nil
  | value :: values, items, hitems => by
      obtain ⟨rule, hrule, hitems⟩ := bind_eq_ok_iff.mp hitems
      obtain ⟨rules, hrules, hitems⟩ := bind_eq_ok_iff.mp hitems
      cases hitems
      exact .cons (spells_of_compile value rule hrule) (spells_of_compileEach values rules hrules)

theorem spells_of_compileLoop :
    ∀ (value : Yaml.Value) (rule : Rule), compileLoop context value = .ok rule →
      ∃ entries, value.mapping? = some entries ∧ ∃ quantifier owner field condition body,
        rule = .loop quantifier owner field body ∧ SpellsHead entries quantifier owner field ∧
          Yaml.Value.find? "condition" entries = some condition ∧ Spells condition body
  | .mapping entries, rule, hrule => by
      obtain ⟨⟨quantifier, owner, field⟩, hhead, hrule⟩ := bind_eq_ok_iff.mp hrule
      obtain ⟨body, hbody, hrule⟩ := bind_eq_ok_iff.mp hrule
      cases hrule
      obtain ⟨condition, hcondition, hspells⟩ := spells_of_compileCondition entries body hbody
      exact ⟨entries, rfl, quantifier, owner, field, condition, body, rfl,
        (loopHead_eq_ok_iff.mp hhead).1, hcondition, hspells⟩
  | .tagged _ value, rule, hrule => spells_of_compileLoop value rule hrule
  | .null, _, hrule | .bool _, _, hrule | .number _, _, hrule | .string _, _, hrule
  | .sequence _, _, hrule => by cases hrule

theorem spells_of_compileCondition :
    ∀ (entries : List (Yaml.Value × Yaml.Value)) (rule : Rule),
      compileCondition context entries = .ok rule →
        ∃ condition, Yaml.Value.find? "condition" entries = some condition ∧ Spells condition rule
  | [], _, hrule => by cases hrule
  | (key, value) :: entries, rule, hrule => by
      rw [compileCondition] at hrule
      by_cases hkey : key.same (.string "condition") = true
      · rw [if_pos hkey] at hrule
        exact ⟨value, by simp [Yaml.Value.find?, hkey], spells_of_compile value rule hrule⟩
      · rw [if_neg hkey] at hrule
        obtain ⟨condition, hcondition, hspells⟩ := spells_of_compileCondition entries rule hrule
        refine ⟨condition, ?_, hspells⟩
        rw [← hcondition]
        simp [Yaml.Value.find?, hkey]

end

/-! ## Spellings that compile -/

theorem compileList_of_sequence? {values : List Yaml.Value} (label : String) :
    ∀ value : Yaml.Value, value.sequence? = some values →
      compileList context label value = compileList context label (.sequence values)
  | .sequence _, rfl => rfl
  | .tagged _ value, hlist => compileList_of_sequence? label value hlist

theorem compileLoop_of_mapping? :
    ∀ value : Yaml.Value, value.mapping? = some entries →
      compileLoop context value = compileLoop context (.mapping entries)
  | .mapping _, rfl => rfl
  | .tagged _ value, hentries => compileLoop_of_mapping? value hentries

theorem compileCondition_of_find? {condition : Yaml.Value}
    (hcondition : Yaml.Value.find? "condition" entries = some condition) :
    compileCondition context entries = compile context condition := by
  induction entries with
  | nil => cases hcondition
  | cons entry entries ih =>
      obtain ⟨key, value⟩ := entry
      rw [compileCondition]
      by_cases hkey : key.same (.string "condition") = true
      · simp only [Yaml.Value.find?, List.find?_cons, hkey, Option.map_some] at hcondition
        cases hcondition
        rw [if_pos hkey]
      · rw [if_neg hkey]
        apply ih
        simpa [Yaml.Value.find?, hkey] using hcondition

mutual

theorem compile_of_spells : ∀ {value : Yaml.Value} {rule : Rule}, Spells value rule →
    rule.IsDefinable context → compile context value = .ok rule
  | _, _, .relation hwords, hdefinable =>
      relation_eq_ok_iff.mpr ⟨.relation hwords, hdefinable⟩
  | _, _, .negation hlabel hbody, hdefinable => by
      rw [compile]
      simp only [hlabel, compile_of_spells hbody hdefinable]
      rfl
  | _, _, .conjunction hlabel hlist hitems, ⟨hne, hdefinable⟩ => by
      rw [compile]
      simp only [hlabel, compileList_of_sequence? "and" _ hlist,
        compileList_of_spellsEach "and" hitems hne hdefinable]
      rfl
  | _, _, .disjunction hlabel hlist hitems, ⟨hne, hdefinable⟩ => by
      rw [compile]
      simp only [hlabel, compileList_of_sequence? "or" _ hlist,
        compileList_of_spellsEach "or" hitems hne hdefinable]
      rfl
  | _, _, .call hlabel hname, hdefinable => by
      rw [compile]
      simp only [hlabel]
      exact call_eq_ok_iff.mpr ⟨_, _, _, hname, hdefinable, rfl⟩
  | _, _, .loop hlabel hentries hhead hcondition hbody, ⟨htype, hdefinable⟩ => by
      rw [compile]
      simp only [hlabel, compileLoop_of_mapping? _ hentries]
      rw [compileLoop, loopHead_eq_ok_iff.mpr ⟨hhead, htype⟩]
      simp only [compileCondition_of_find? hcondition, compile_of_spells hbody hdefinable, bind,
        Except.bind]
      rfl

theorem compileList_of_spellsEach (label : String) : ∀ {values : List Yaml.Value}
    {items : List Rule}, SpellsEach values items → items ≠ [] → AreDefinable context items →
      compileList context label (.sequence values) = .ok items
  | _, _, .nil, hne, _ => absurd rfl hne
  | _, _, .cons hitem hitems, _, ⟨hdefinable, hothers⟩ => by
      rw [compileList, compile_of_spells hitem hdefinable, compileEach_of_spells hitems hothers]
      rfl

theorem compileEach_of_spells : ∀ {values : List Yaml.Value} {items : List Rule},
    SpellsEach values items → AreDefinable context items →
      compileEach context values = .ok items
  | _, _, .nil, _ => rfl
  | _, _, .cons hitem hitems, ⟨hdefinable, hothers⟩ => by
      rw [compileEach, compile_of_spells hitem hdefinable, compileEach_of_spells hitems hothers]
      rfl

end

/-! ## Writing rules -/

theorem isWord_relationWords {left right : Side} {field1 field2 : String} {name : Relation}
    (hfield1 : Text.IsWord field1.toList) (hfield2 : Text.IsWord field2.toList) :
    ∀ word ∈ relationWords left field1 name right field2, Text.IsWord word := by
  have hside : ∀ side : Side, Text.IsWord side.index.toList := by
    intro side
    cases side <;> simp [Text.IsWord, Side.index, Text.isBlank]
  have hname : Text.IsWord name.name.toList := by
    cases name <;> simp [Text.IsWord, Relation.name, Text.isBlank]
  simp only [relationWords, List.map_cons, List.map_nil, List.forall_mem_cons]
  exact ⟨hside left, hfield1, hname, hside right, hfield2, by simp⟩

theorem spellsHead_loopEntries (quantifier : Quantifier) (owner : Side) (field : String)
    (condition : Yaml.Value) :
    SpellsHead (loopEntries quantifier owner field condition) quantifier owner field :=
  { label := ⟨.string quantifier.label, rfl, rfl⟩
    index := ⟨.number (.integer owner.number), rfl, .inl rfl⟩
    field := ⟨.string field, rfl, rfl⟩ }

mutual

theorem spells_write : ∀ rule : Rule, rule.IsDefinable context → Spells rule.write rule
  | relation left field1 name right field2, ⟨hfield1, hfield2, _⟩ => by
      apply Spells.relation
      rw [String.toList_ofList]
      exact Text.spaced_intercalate (isWord_relationWords hfield1 hfield2)
  | negation body, hbody => .negation rfl (spells_write body hbody)
  | conjunction items, ⟨_, hitems⟩ => .conjunction rfl rfl (spellsEach_writeEach items hitems)
  | disjunction items, ⟨_, hitems⟩ => .disjunction rfl rfl (spellsEach_writeEach items hitems)
  | named _ _ _, _ => .call rfl rfl
  | loop quantifier owner field body, ⟨_, hbody⟩ =>
      .loop rfl rfl (spellsHead_loopEntries quantifier owner field body.write) rfl
        (spells_write body hbody)

theorem spellsEach_writeEach :
    ∀ items : List Rule, AreDefinable context items → SpellsEach (writeEach items) items
  | [], _ => .nil
  | item :: items, ⟨hitem, hitems⟩ =>
      .cons (spells_write item hitem) (spellsEach_writeEach items hitems)

end

/-- Compiling inverts writing.  A definition compiles to the rule that it spells, in any of the
spellings, if the registry and the rules above allow the rule, and to nothing otherwise; and
every rule that they allow is spelled by what it is written as. -/
theorem compile_eq_ok_iff (context : Context) :
    (∀ (value : Yaml.Value) (rule : Rule),
        compile context value = .ok rule ↔ Spells value rule ∧ rule.IsDefinable context) ∧
      ∀ rule : Rule, compile context rule.write = .ok rule ↔ rule.IsDefinable context := by
  have hcompile : ∀ (value : Yaml.Value) (rule : Rule),
      compile context value = .ok rule ↔ Spells value rule ∧ rule.IsDefinable context := by
    intro value rule
    constructor
    · intro hrule
      exact ⟨spells_of_compile value rule hrule, isDefinable_of_compile hrule⟩
    · rintro ⟨hspells, hdefinable⟩
      exact compile_of_spells hspells hdefinable
  refine ⟨hcompile, ?_⟩
  intro rule
  rw [hcompile]
  constructor
  · rintro ⟨_, hdefinable⟩
    exact hdefinable
  · intro hdefinable
    exact ⟨spells_write rule hdefinable, hdefinable⟩

/-- The parts of a loop in another order, its index as a text, and a tab between two words. -/
example :
    compile ⟨⟨.ofList [("agent", "entity")], [(.includes, "entity")], []⟩, [], "agents"⟩
        (.mapping [(.string "for", .mapping [
          (.string "condition", .string " 2 agent\tinclude 1  agent"),
          (.string "index", .string "2"), (.string "field", .string "agent"),
          (.string "label", .string "or")])]) =
      .ok (.loop .any .second "agent" (.relation .second "agent" .includes .first "agent")) := by
  rfl

end Rule

end ReqConflict
