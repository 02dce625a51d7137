import ReqConflict.Expr.Scope
import ReqConflict.Expr.Stack
import ReqConflict.Rule.Name
import ReqConflict.RulesDocument
import ReqConflict.Subject

/-!
# The registry of comparisons

The registry knows the type of every field, the types that each relation is
permitted for, and how each relation compares two values of a type.  A relation
between two fields is checked first: both fields must be declared with one
type, which the relation is permitted for.

A registry is built from a rules document only if every permitted relation has
its comparison, and the inclusion of entities has one in any case: the
inclusion of lists of entities is defined by it.
-/

namespace ReqConflict

structure Registry where
  fieldTypes : Table String
  permitted : List (Relation × String)
  comparisons : List ((Relation × String) × Expr)

namespace Registry

/-- The type whose inclusion compares single entities. -/
def entityType : String :=
  "entity"

def readRelation (name : String) : Except RuleError Relation :=
  match Relation.ofName? name with
  | some relation => .ok relation
  | none => .error (.unknownRelation name)

/-- The pairs of relations and types of a table, by type within a relation. -/
def readPermitted (table : Table (List String)) : Except RuleError (List (Relation × String)) := do
  let pairs ← table.entries.mapM fun (name, types) => do
    let relation ← readRelation name
    return (Table.ofList (types.map fun type => (type, ()))).names.map (relation, ·)
  return pairs.flatten

def readComparison (relation : Relation) (type text : String) : Except RuleError Expr :=
  match Expr.read text with
  | .ok comparison => .ok comparison
  | .error cause => .error (.invalidComparison relation type cause)

def readComparisons (table : Table (Table String)) :
    Except RuleError (List ((Relation × String) × Expr)) := do
  let pairs ← table.entries.mapM fun (name, texts) => do
    let relation ← readRelation name
    texts.entries.mapM fun (type, text) =>
      return ((relation, type), ← readComparison relation type text)
  return pairs.flatten

def comparison (registry : Registry) (relation : Relation) (type : String) :
    Except RuleError Expr :=
  match registry.comparisons.lookup (relation, type) with
  | some comparison => .ok comparison
  | none => .error (.missingComparison relation type)

/-- The pairs of a relation and a type that must have a comparison. -/
def required (registry : Registry) : List (Relation × String) :=
  registry.permitted ++ [(.includes, entityType)]

def ofDocument (document : RulesDocument) : Except RuleError Registry := do
  let permitted ← readPermitted document.allowedTypes
  let comparisons ← readComparisons document.operators
  let registry : Registry := ⟨document.fieldTypes, permitted, comparisons⟩
  registry.required.forM fun (relation, type) => do
    let _ ← registry.comparison relation type
  return registry

def fieldType (registry : Registry) (field : String) : Except RuleError String :=
  match registry.fieldTypes.find? field with
  | some type => .ok type
  | none => .error (.undeclaredField field)

def isPermitted (registry : Registry) (relation : Relation) (type : String) : Bool :=
  registry.permitted.contains (relation, type)

/-- The type at which a relation compares two fields. -/
def check (registry : Registry) (field1 : String) (relation : Relation) (field2 : String) :
    Except RuleError String := do
  let type1 ← registry.fieldType field1
  let type2 ← registry.fieldType field2
  if type1 ≠ type2 then throw (.typeMismatch field1 type1 field2 type2)
  if !registry.isPermitted relation type1 then throw (.notPermitted relation type1)
  return type1

def compare (registry : Registry) (helpers : Helpers) (relation : Relation) (type : String)
    (a b : Value) : Except RuleError Bool := do
  (← registry.comparison relation type).compare helpers a b

def relate (registry : Registry) (helpers : Helpers) (x : Subject) (field1 : String)
    (relation : Relation) (y : Subject) (field2 : String) : Except RuleError Bool := do
  let a ← x.field field1
  let b ← y.field field2
  registry.compare helpers relation (← registry.check field1 relation field2) a b

def entityIncludes (registry : Registry) (helpers : Helpers) (a b : Entity) :
    Except RuleError Bool :=
  registry.compare helpers .includes entityType (.entity a) (.entity b)

def entitySetInclude (registry : Registry) (helpers : Helpers) (a b : List Entity) :
    Except RuleError Bool :=
  Quantifier.all.over (fun wanted =>
    Quantifier.any.over (fun candidate => registry.entityIncludes helpers candidate wanted) a) b

/-- The helpers of a registry that has no rules, in which calls nest less than
`depth` deep. -/
def helpersTo (registry : Registry) : Nat → Helpers
  | 0 => .none
  | depth + 1 =>
      { entitySetInclude := registry.entitySetInclude (registry.helpersTo depth)
        conditionSetInclude := fun _ _ => .error (.missingRule RuleName.conditionInclude)
        conditionContradict := fun _ => .error (.missingRule RuleName.conditionContradict) }

def helpers (registry : Registry) : Helpers :=
  registry.helpersTo Helpers.deepest

end Registry

end ReqConflict
