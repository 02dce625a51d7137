import ReqConflict.Expr.Basic
import ReqConflict.Relation

/-!
# Errors of rules

What can be wrong with a rules document, and what can go wrong when a rule is
judged on two tuples.  An error inside a rule carries the names of the rules
around it.
-/

namespace ReqConflict

inductive RuleFlaw where
  | nameNotText
  | noRule (found : String)
  | labelCount (found : Nat)
  | labelNotText
  | unknownLabel (label : String)
  | notList (label : String)
  | emptyList (label : String)
  | wordCount (text : String)
  | index (word text : String)
  | callNotText
  | loopNotMapping
  | loopLacks (key : String)
  | loopLabel
  | loopIndex
  | loopField
deriving DecidableEq, Repr

def RuleFlaw.message : RuleFlaw → String
  | nameNotText => "rule names must be strings"
  | noRule found => "expected a base relation or a labelled rule, found " ++ found
  | labelCount found => "expected exactly one label, found " ++ toString found
  | labelNotText => "labels must be strings"
  | unknownLabel label => "unrecognized label '" ++ label ++ "'"
  | notList label => "'" ++ label ++ "' takes a list of rules"
  | emptyList label => "'" ++ label ++ "' needs at least one rule"
  | wordCount text => "base relation '" ++ text ++ "' must read 'index field relation index field'"
  | index word text => "index '" ++ word ++ "' in '" ++ text ++ "' must be 1 or 2"
  | callNotText => "'function' takes a rule name"
  | loopNotMapping => "'for' takes a mapping"
  | loopLacks key => "'for' is missing '" ++ key ++ "'"
  | loopLabel => "'for' label must be 'and' or 'or'"
  | loopIndex => "'for' index must be 1 or 2"
  | loopField => "'for' field must be a field name"

inductive RuleError where
  | undeclaredField (field : String)
  | typeMismatch (field1 type1 field2 type2 : String)
  | notPermitted (relation : Relation) (type : String)
  | missingComparison (relation : Relation) (type : String)
  | unknownRelation (name : String)
  | invalidComparison (relation : Relation) (type : String) (cause : ExprError)
  | malformed (rule : String) (flaw : RuleFlaw)
  | undefinedRule (rule target : String)
  | missingRule (name : String)
  | missingField (field tuple : String)
  | notIterable (field found : String)
  | expression (cause : ExprError)
  /-- A function that runs comparisons is called inside too many others. -/
  | nestedFunction (function : Builtin)
  | inRule (rule : String) (cause : RuleError)
deriving DecidableEq, Repr

namespace RuleError

def message : RuleError → String
  | undeclaredField field => "type error: field '" ++ field ++ "' has no declared type"
  | typeMismatch field1 type1 field2 type2 =>
      "type error: cannot relate '" ++ field1 ++ "' (" ++ type1 ++ ") to '" ++ field2 ++ "' ("
        ++ type2 ++ "): declared types differ"
  | notPermitted relation type =>
      "type error: relation '" ++ relation.name ++ "' is not permitted for type '" ++ type ++ "'"
  | missingComparison relation type =>
      "no '" ++ relation.name ++ "' comparison registered for type '" ++ type ++ "'"
  | unknownRelation name =>
      "unknown relation '" ++ name ++ "', expected one of: equal, include, contradict"
  | invalidComparison relation type cause =>
      "invalid '" ++ relation.name ++ "' comparison for type '" ++ type ++ "': " ++ cause.message
  | malformed rule flaw => "syntax error in rule '" ++ rule ++ "': " ++ flaw.message
  | undefinedRule rule target =>
      "rule '" ++ rule ++ "' references undefined rule '" ++ target ++ "'"
  | missingRule name => "required rule '" ++ name ++ "' is not defined in the rules document"
  | missingField field tuple => "field '" ++ field ++ "' is absent on " ++ tuple
  | notIterable field found =>
      "field '" ++ field ++ "' holds " ++ found ++ ", expected a condition list to iterate"
  | expression cause => cause.message
  | nestedFunction function => "function '" ++ function.name ++ "' is nested too deeply"
  | inRule rule cause => "in rule '" ++ rule ++ "': " ++ message cause

/-- The error without the names of the rules around it. -/
def root : RuleError → RuleError
  | inRule _ cause => root cause
  | other => other

/-- Notes the rule in which an error arises. -/
def within {α : Type} (rule : String) : Except RuleError α → Except RuleError α
  | .ok value => .ok value
  | .error cause => .error (.inRule rule cause)

/-- An error of an expression as an error of the rule that uses it. -/
def ofExpr {α : Type} : Except ExprError α → Except RuleError α
  | .ok value => .ok value
  | .error cause => .error (.expression cause)

end RuleError

end ReqConflict
