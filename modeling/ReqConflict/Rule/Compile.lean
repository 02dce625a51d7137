import ReqConflict.Rule.Basic
import ReqConflict.Text.Blank
import ReqConflict.Yaml.Inspect

/-!
# Compiling rules

A rule is written as five words that relate two fields, or as a mapping with
one label: `and` and `or` with a list of rules, `not` with a rule, `function`
with the name of a rule defined above, and `for` with the parts of a loop.
-/

namespace ReqConflict

/-- What a value is called in messages. -/
def Yaml.Value.kind : Yaml.Value → String
  | .null => "nothing"
  | .bool _ => "a boolean"
  | .number _ => "a number"
  | .string _ => "a string"
  | .sequence _ => "a list"
  | .mapping _ => "a mapping"
  | .tagged .. => "a tagged value"

namespace Rule

/-- What a rule is compiled in: the registry, the rules above, and its name. -/
structure Context where
  registry : Registry
  above : List NamedRule
  name : String

namespace Context

def flaw {α : Type} (context : Context) (flaw : RuleFlaw) : Except RuleError α :=
  .error (.malformed context.name flaw)

def orFlaw {α : Type} (context : Context) (flaw : RuleFlaw) : Option α → Except RuleError α
  | some value => .ok value
  | none => context.flaw flaw

/-- A relation written as index, field, relation, index and field. -/
def relation (context : Context) (text : String) : Except RuleError Rule := do
  match (Text.words text.toList).map String.ofList with
  | [index1, field1, relation, index2, field2] =>
      let left ← context.orFlaw (.index index1 text) (Side.ofIndex? index1)
      let right ← context.orFlaw (.index index2 text) (Side.ofIndex? index2)
      let relation ← Registry.readRelation relation
      let _ ← context.registry.check field1 relation field2
      return .relation left field1 relation right field2
  | _ => context.flaw (.wordCount text)

def call (context : Context) (content : Yaml.Value) : Except RuleError Rule := do
  let name ← context.orFlaw .callNotText content.string?
  match NamedRule.find? name context.above with
  | some (index, body) => return .named index name body
  | none => throw (.undefinedRule context.name name)

def loopPart (context : Context) (entries : List (Yaml.Value × Yaml.Value)) (key : String) :
    Except RuleError Yaml.Value :=
  context.orFlaw (.loopLacks key) (Yaml.Value.find? key entries)

/-- The side that an index of a loop stands for, a number or a text. -/
def loopSide? : Yaml.Value → Option Side
  | .number (.integer 1) => some .first
  | .number (.integer 2) => some .second
  | .string text => Side.ofIndex? text
  | _ => none

/-- What a loop goes through: its quantifier, the side and the field. -/
def loopHead (context : Context) (entries : List (Yaml.Value × Yaml.Value)) :
    Except RuleError (Quantifier × Side × String) := do
  let quantifier ←
    match (← context.loopPart entries "label").string? with
    | some "or" => pure Quantifier.any
    | some "and" => pure Quantifier.all
    | _ => context.flaw .loopLabel
  let side ← context.orFlaw .loopIndex (loopSide? (← context.loopPart entries "index"))
  let field ← context.orFlaw .loopField (← context.loopPart entries "field").string?
  let _ ← context.registry.fieldType field
  return (quantifier, side, field)

end Context

mutual

def compile (context : Context) : Yaml.Value → Except RuleError Rule
  | .string text => context.relation text
  | .mapping [(label, content)] =>
      match label.string? with
      | some "and" => return .conjunction (← compileList context "and" content)
      | some "or" => return .disjunction (← compileList context "or" content)
      | some "not" => return .negation (← compile context content)
      | some "function" => context.call content
      | some "for" => compileLoop context content
      | some other => context.flaw (.unknownLabel other)
      | none => context.flaw .labelNotText
  | .mapping entries => context.flaw (.labelCount entries.length)
  | other => context.flaw (.noRule other.kind)

def compileList (context : Context) (label : String) : Yaml.Value → Except RuleError (List Rule)
  | .sequence [] => context.flaw (.emptyList label)
  | .sequence (item :: items) => do
      let rule ← compile context item
      return rule :: (← compileEach context items)
  | .tagged _ value => compileList context label value
  | _ => context.flaw (.notList label)

def compileEach (context : Context) : List Yaml.Value → Except RuleError (List Rule)
  | [] => .ok []
  | item :: items => do
      let rule ← compile context item
      return rule :: (← compileEach context items)

def compileLoop (context : Context) : Yaml.Value → Except RuleError Rule
  | .mapping entries => do
      let (quantifier, side, field) ← context.loopHead entries
      return .loop quantifier side field (← compileCondition context entries)
  | .tagged _ value => compileLoop context value
  | _ => context.flaw .loopNotMapping

def compileCondition (context : Context) : List (Yaml.Value × Yaml.Value) → Except RuleError Rule
  | [] => context.flaw (.loopLacks "condition")
  | (key, value) :: entries =>
      if key.same (.string "condition") then compile context value
      else compileCondition context entries

end

end Rule

end ReqConflict
