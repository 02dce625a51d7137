import ReqConflict.Registry

/-!
# Rules

A rule is judged on an ordered pair of subjects.  It relates fields of the two,
combines other rules, calls a rule defined above it, or goes through the
conditions in a field.  A called rule is part of the rule that calls it, so
that judging a rule needs nothing but the rule itself.
-/

namespace ReqConflict

/-- One of the two subjects of a rule. -/
inductive Side where
  | first
  | second
deriving DecidableEq, Repr

namespace Side

def ofIndex? (text : String) : Option Side :=
  if text = "1" then some first else if text = "2" then some second else none

def pick {α : Type} (x y : α) : Side → α
  | first => x
  | second => y

end Side

inductive Rule where
  | relation (left : Side) (field1 : String) (relation : Relation) (right : Side) (field2 : String)
  | negation (body : Rule)
  | conjunction (items : List Rule)
  | disjunction (items : List Rule)
  /-- A call of the rule at a position. -/
  | named (index : Nat) (name : String) (body : Rule)
  /-- Goes through the conditions in a field of one subject, each of which takes
  the place of that subject. -/
  | loop (quantifier : Quantifier) (owner : Side) (field : String) (body : Rule)
  /-- An output of the first subject includes an input of the second, and no
  event inconsistency, the rule at a position, holds either way. -/
  | interlock (index : Nat) (inconsistency : Rule)
deriving Repr, Inhabited

namespace Rule

def feeds (registry : Registry) (helpers : Helpers) (x y : Subject) : Except RuleError Bool := do
  let outputs ← x.entities RuleName.inputOutputInterlock "output"
  let inputs ← y.entities RuleName.inputOutputInterlock "input"
  Quantifier.any.over (fun produced =>
    Quantifier.any.over (fun consumed => registry.entityIncludes helpers produced consumed)
      inputs) outputs

mutual

def eval (registry : Registry) (helpers : Helpers) :
    Rule → Subject → Subject → Except RuleError Bool
  | relation left field1 name right field2, x, y =>
      registry.relate helpers (left.pick x y) field1 name (right.pick x y) field2
  | negation body, x, y => do return !(← eval registry helpers body x y)
  | conjunction items, x, y => evalAll registry helpers items x y
  | disjunction items, x, y => evalAny registry helpers items x y
  | named _ name body, x, y => RuleError.within name (eval registry helpers body x y)
  | loop quantifier .first field body, x, y => do
      let conditions ← x.conditions field
      quantifier.over (fun c => eval registry helpers body (.condition c) y) conditions
  | loop quantifier .second field body, x, y => do
      let conditions ← y.conditions field
      quantifier.over (fun c => eval registry helpers body x (.condition c)) conditions
  | interlock _ inconsistency, x, y => do
      let isInconsistent := fun x y =>
        RuleError.within RuleName.eventInconsistency (eval registry helpers inconsistency x y)
      if ← isInconsistent x y then return false
      if ← isInconsistent y x then return false
      feeds registry helpers x y

def evalAll (registry : Registry) (helpers : Helpers) :
    List Rule → Subject → Subject → Except RuleError Bool
  | [], _, _ => .ok true
  | item :: items, x, y => do
      if ← eval registry helpers item x y then evalAll registry helpers items x y else return false

def evalAny (registry : Registry) (helpers : Helpers) :
    List Rule → Subject → Subject → Except RuleError Bool
  | [], _, _ => .ok false
  | item :: items, x, y => do
      if ← eval registry helpers item x y then return true else evalAny registry helpers items x y

end

end Rule

structure NamedRule where
  name : String
  rule : Rule
deriving Repr, Inhabited

namespace NamedRule

/-- The last of some rules with a name, and its position. -/
def find? (name : String) : List NamedRule → Option (Nat × Rule)
  | [] => none
  | entry :: entries =>
      match find? name entries with
      | some (index, rule) => some (index + 1, rule)
      | none => if entry.name = name then some (0, entry.rule) else none

end NamedRule

end ReqConflict
