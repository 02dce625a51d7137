import ReqConflict.Load
import ReqConflict.Proofs.Outcome
import ReqConflict.Proofs.Rule.Equality

/-!
# The compiled built-in rules

The rule set that the built-in rules document compiles to, written out.  That
it is this one is checked by reading and compiling the document.
-/

namespace ReqConflict.BuiltinRules

/-- An attribute of the first value. -/
def ofA (attributes : List Attribute) : Expr :=
  .path "a" attributes

def ofB (attributes : List Attribute) : Expr :=
  .path "b" attributes

def equality : Expr :=
  .comparison true (ofA []) (ofB [])

def setEquality : Expr :=
  .call .setEqual [ofA [], ofB []]

def entityInclusion : Expr :=
  .disjunction
    [ equality,
      .conjunction
        [ .comparison true (ofA [.base]) (ofB [.base]),
          .comparison true (ofA [.entirety]) (ofB [.entirety]),
          .disjunction [ofA [.isAll], .call .subset [ofA [.modifier], ofB [.modifier]]] ] ]

def entitySetInclusion : Expr :=
  .call .entitySetInclude [ofA [], ofB []]

def stringSetInclusion : Expr :=
  .call .subset [ofB [], ofA []]

def conditionSetInclusion : Expr :=
  .disjunction [.call .empty [ofA []], .call .conditionSetInclude [ofA [], ofB []]]

def operationContradiction : Expr :=
  .conjunction
    [ .comparison true (ofA [.predicate]) (ofB [.predicate]),
      .comparison false (ofA [.negated]) (ofB [.negated]) ]

def stringSetContradiction : Expr :=
  .conjunction
    [ .negation (.call .empty [ofA []]), .negation (.call .empty [ofB []]),
      .call .disjoint [ofA [], ofB []] ]

def comparisons : List ((Relation × String) × Expr) :=
  [ ((.contradicts, "operation"), operationContradiction),
    ((.contradicts, "string-set"), stringSetContradiction),
    ((.equals, "condition-set"), setEquality),
    ((.equals, "entity"), equality),
    ((.equals, "entity-set"), setEquality),
    ((.equals, "operation"), equality),
    ((.equals, "string-set"), setEquality),
    ((.includes, "condition-set"), conditionSetInclusion),
    ((.includes, "entity"), entityInclusion),
    ((.includes, "entity-set"), entitySetInclusion),
    ((.includes, "string-set"), stringSetInclusion) ]

def fieldTypes : Table String where
  entries :=
    [ ("agent", "entity"), ("event", "condition-set"), ("input", "entity-set"),
      ("operation", "operation"), ("output", "entity-set"), ("restriction", "string-set") ]
  increasing := by decide

def registry : Registry where
  fieldTypes := fieldTypes
  permitted := comparisons.map (·.1)
  comparisons := comparisons

/-- A field of the first subject is related to that field of the second. -/
def forth (relation : Relation) (field : String) : Rule :=
  .relation .first field relation .second field

def back (relation : Relation) (field : String) : Rule :=
  .relation .second field relation .first field

def conditionInclude : Rule :=
  .conjunction
    [back .includes "agent", forth .equals "operation", back .includes "input",
      back .includes "output"]

def inputOverlap : Rule :=
  .disjunction [forth .includes "input", back .includes "input"]

def conditionContradict : Rule :=
  .conjunction
    [forth .equals "agent", forth .contradicts "operation", .named 1 "input overlap" inputOverlap]

def eventOverlap : Rule :=
  .disjunction [forth .includes "event", back .includes "event"]

def sameAction : Rule :=
  .conjunction
    [forth .equals "agent", forth .equals "operation", .named 1 "input overlap" inputOverlap]

def actionTriggersEvent : Rule :=
  .conjunction [back .includes "agent", forth .equals "operation", back .includes "input"]

def operationInconsistency : Rule :=
  .conjunction
    [forth .equals "agent", forth .contradicts "operation", .named 1 "input overlap" inputOverlap,
      .negation (forth .contradicts "restriction"), .named 3 "event overlap" eventOverlap]

def restrictionInconsistency : Rule :=
  .conjunction
    [.named 4 "same action" sameAction, .named 3 "event overlap" eventOverlap,
      forth .contradicts "restriction"]

def eventInconsistency : Rule :=
  .disjunction
    [ .loop .any .first "event" (.named 2 RuleName.conditionContradict conditionContradict),
      .loop .any .second "event" (.named 2 RuleName.conditionContradict conditionContradict) ]

def operationInclusion : Rule :=
  .conjunction
    [forth .equals "operation", forth .includes "agent", forth .includes "input",
      forth .includes "output", back .includes "restriction", forth .equals "event"]

def eventInclusion : Rule :=
  .conjunction
    [forth .equals "agent", forth .equals "operation", forth .equals "input",
      forth .equals "output", forth .includes "event", .negation (forth .equals "event")]

def operationEventInterlock : Rule :=
  .loop .any .second "event" (.named 5 "action triggers event" actionTriggersEvent)

def inputOutputInterlock : Rule :=
  .interlock 8 eventInconsistency

def ruleSet : RuleSet where
  registry := registry
  rules :=
    [ ⟨RuleName.conditionInclude, conditionInclude⟩,
      ⟨"input overlap", inputOverlap⟩,
      ⟨RuleName.conditionContradict, conditionContradict⟩,
      ⟨"event overlap", eventOverlap⟩,
      ⟨"same action", sameAction⟩,
      ⟨"action triggers event", actionTriggersEvent⟩,
      ⟨RuleName.operationInconsistency, operationInconsistency⟩,
      ⟨RuleName.restrictionInconsistency, restrictionInconsistency⟩,
      ⟨RuleName.eventInconsistency, eventInconsistency⟩,
      ⟨RuleName.operationInclusion, operationInclusion⟩,
      ⟨RuleName.eventInclusion, eventInclusion⟩,
      ⟨RuleName.operationEventInterlock, operationEventInterlock⟩,
      ⟨RuleName.inputOutputInterlock, inputOutputInterlock⟩ ]

/-- Reads and compiles the text of the built-in rules, or another one in its
place. -/
def compiled (text : String) : Except RunError RuleSet :=
  (RulesSource.builtin.readDocument text).bind RulesSource.builtin.compile

/-- What a text compiles to, whatever may be wrong with it. -/
def compiled? (text : String) : Option RuleSet := do
  let document ← (RulesDocument.read text).toOption
  (RuleSet.ofDocument document).toOption

theorem exists_document_of_compiled? {text : String} {rules : RuleSet}
    (hrules : compiled? text = some rules) :
    ∃ document, RulesDocument.read text = .ok document ∧
      RuleSet.ofDocument document = .ok rules := by
  unfold compiled? at hrules
  obtain ⟨document, hread, hcompile⟩ := Option.bind_eq_some_iff.mp hrules
  exact ⟨document, toOption_eq_some_iff.mp hread, toOption_eq_some_iff.mp hcompile⟩

theorem compiled_of_compiled? {text : String} {rules : RuleSet}
    (hrules : compiled? text = some rules) : compiled text = .ok rules := by
  obtain ⟨document, hread, hcompile⟩ := exists_document_of_compiled? hrules
  simp [compiled, RulesSource.readDocument, RulesSource.compile, hread, hcompile, Except.bind]

theorem toList_of_eq_ofList {text : String} {chars : List Char}
    (htext : text = String.ofList chars) : text.toList = chars := by
  rw [htext, String.toList_ofList]

set_option maxRecDepth 1000000 in
/-- The characters of the document are put in first: evaluation cannot take a
text of this length apart. -/
theorem compiled?_builtinText : compiled? RulesDocument.builtinText = some ruleSet := by
  unfold compiled? RulesDocument.read Yaml.Document.ofText
  have hchars : RulesDocument.builtinText.toList = _ := toList_of_eq_ofList rfl
  rw [hchars]
  decide +kernel

theorem compiled_builtinText : compiled RulesDocument.builtinText = .ok ruleSet :=
  compiled_of_compiled? compiled?_builtinText

end ReqConflict.BuiltinRules
