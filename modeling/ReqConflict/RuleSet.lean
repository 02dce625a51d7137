import ReqConflict.Rule.Compile

/-!
# Rule sets

A rule set holds the compiled rules of a rules document in their order, and
behind them the derived rule for interlocks of inputs and outputs.  A rule can
call only rules above it.

The helpers of a rule set run its comparisons and its rules, which have helpers
of their own.  Their nesting is bounded, and the bound is never reached.
-/

namespace ReqConflict

structure RuleSet where
  registry : Registry
  rules : List NamedRule

namespace RuleSet

/-- Notes the rule around an error, unless the error names it itself. -/
def inRule {α : Type} (name : String) : Except RuleError α → Except RuleError α
  | .error (.malformed rule flaw) => .error (.malformed rule flaw)
  | .error (.undefinedRule rule target) => .error (.undefinedRule rule target)
  | result => RuleError.within name result

/-- Compiles rules one after the other, each below the ones before it. -/
def compileBelow (registry : Registry) (above : List NamedRule) :
    List (Yaml.Value × Yaml.Value) → Except RuleError (List NamedRule)
  | [] => .ok above
  | (key, definition) :: others =>
      match key.string? with
      | none => .error (.malformed key.inspect .nameNotText)
      | some name =>
          if name = RuleName.inputOutputInterlock then compileBelow registry above others
          else do
            let rule ← inRule name (Rule.compile ⟨registry, above, name⟩ definition)
            compileBelow registry (above ++ [⟨name, rule⟩]) others

def find? (rules : RuleSet) (name : String) : Option (Nat × Rule) :=
  NamedRule.find? name rules.rules

def ofDocument (document : RulesDocument) : Except RuleError RuleSet := do
  let registry ← Registry.ofDocument document
  let rules ← compileBelow registry [] document.rules
  RuleName.required.forM fun name =>
    if (NamedRule.find? name rules).isSome then pure () else throw (.missingRule name)
  match NamedRule.find? RuleName.eventInconsistency rules with
  | none => throw (.missingRule RuleName.eventInconsistency)
  | some (index, inconsistency) =>
      let derived := ⟨RuleName.inputOutputInterlock, .interlock index inconsistency⟩
      return ⟨registry, rules ++ [derived]⟩

def size (rules : RuleSet) : Nat :=
  rules.rules.length

def isEmpty (rules : RuleSet) : Bool :=
  rules.rules.isEmpty

def names (rules : RuleSet) : List String :=
  rules.rules.map (·.name)

def judgeWith (rules : RuleSet) (helpers : Helpers) (name : String) (x y : Subject) :
    Except RuleError Bool :=
  match rules.find? name with
  | none => .error (.missingRule name)
  | some (_, rule) => RuleError.within name (rule.eval rules.registry helpers x y)

def judgeConditions (rules : RuleSet) (helpers : Helpers) (name : String) (c d : Condition) :
    Except RuleError Bool :=
  rules.judgeWith helpers name (.condition c) (.condition d)

/-- Some condition of `b`, followed by one of `a`, satisfies the inclusion of
conditions. -/
def conditionSetInclude (rules : RuleSet) (helpers : Helpers) (a b : List Condition) :
    Except RuleError Bool :=
  Quantifier.any.over (fun c =>
    Quantifier.any.over (fun d => rules.judgeConditions helpers RuleName.conditionInclude d c) b) a

/-- Two positions of a list hold conditions that contradict each other. -/
def conditionContradict (rules : RuleSet) (helpers : Helpers) (conditions : List Condition) :
    Except RuleError Bool :=
  let placed := conditions.zipIdx
  Quantifier.any.over (fun (c, i) =>
    Quantifier.any.over (fun (d, j) =>
      if i = j then .ok false
      else rules.judgeConditions helpers RuleName.conditionContradict c d) placed) placed

/-- The helpers of a rule set, in which calls nest less than `depth` deep. -/
def helpersTo (rules : RuleSet) : Nat → Helpers
  | 0 => .none
  | depth + 1 =>
      { entitySetInclude := rules.registry.entitySetInclude (rules.helpersTo depth)
        conditionSetInclude := rules.conditionSetInclude (rules.helpersTo depth)
        conditionContradict := rules.conditionContradict (rules.helpersTo depth) }

def helpers (rules : RuleSet) : Helpers :=
  rules.helpersTo Helpers.deepest

def judge (rules : RuleSet) (name : String) (x y : Subject) : Except RuleError Bool :=
  rules.judgeWith rules.helpers name x y

end RuleSet

end ReqConflict
