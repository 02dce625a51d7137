import ReqConflict.Expr.Value
import ReqConflict.Rule.Error

/-!
# Evaluating expressions

An expression is evaluated where some variables are bound.  Here every part has
an environment of its own; a program keeps one stack for all of them.

Three functions of the language run comparisons or rules themselves; what they
answer is given from outside, as `Helpers`.  The comparisons that they run have
helpers again, but one level less of them.
-/

namespace ReqConflict

/-- Goes through a list until a test decides. -/
def Quantifier.over {α ε : Type} (quantifier : Quantifier) (test : α → Except ε Bool) :
    List α → Except ε Bool
  | [] => .ok (quantifier == .all)
  | item :: items => do
      if (← test item) == (quantifier == .any) then return quantifier == .any
      else Quantifier.over quantifier test items

theorem Quantifier.over_ok {α ε : Type} (quantifier : Quantifier) (test : α → Bool)
    (items : List α) :
    quantifier.over (fun item => (.ok (test item) : Except ε Bool)) items =
      .ok (match quantifier with
        | .any => items.any test
        | .all => items.all test) := by
  induction items with
  | nil => cases quantifier <;> rfl
  | cons item items ih =>
      rw [Quantifier.over, ih]
      cases quantifier with
      | any =>
          rw [List.any_cons]
          cases test item <;> rfl
      | all =>
          rw [List.all_cons]
          cases test item <;> rfl

/-- The functions that run comparisons or rules. -/
structure Helpers where
  /-- Every entity of the second list is included by one of the first. -/
  entitySetInclude : List Entity → List Entity → Except RuleError Bool
  /-- Some condition of the second list is included by one of the first. -/
  conditionSetInclude : List Condition → List Condition → Except RuleError Bool
  /-- Two different positions of the list hold conditions that contradict. -/
  conditionContradict : List Condition → Except RuleError Bool

namespace Helpers

/-- No helpers: each of them is nested too deep. -/
def none : Helpers where
  entitySetInclude _ _ := .error (.nestedFunction .entitySetInclude)
  conditionSetInclude _ _ := .error (.nestedFunction .conditionSetInclude)
  conditionContradict _ := .error (.nestedFunction .conditionContradict)

/-- How deep helpers nest.  A helper for conditions runs a rule on them, whose
comparisons may ask for the inclusion of lists of entities; no list can be
reached from the entities that are compared then. -/
def deepest : Nat := 2

end Helpers

abbrev Environment := List (String × Value)

namespace Environment

def find (environment : Environment) (name : String) : Except ExprError Value :=
  match environment.lookup name with
  | some value => .ok value
  | none => .error (.unboundVariable name)

end Environment

namespace Builtin

/-- The kind to report where one of two arguments is not of the expected kind. -/
def kindError (function : Builtin) (expected : String) (a b : Value) : RuleError :=
  .expression (.kind function.name expected (if a.kind = expected then b.kind else a.kind))

def apply (helpers : Helpers) (function : Builtin) (arguments : List Value) :
    Except RuleError Bool :=
  match function, arguments with
  | setEqual, [a, b] => RuleError.ofExpr do
      let a ← a.elements function.name
      let b ← b.elements function.name
      if ← Value.isSubset b a then Value.isSubset a b else return false
  | subset, [a, b] => RuleError.ofExpr do
      let a ← a.elements function.name
      let b ← b.elements function.name
      Value.isSubset b a
  | disjoint, [a, b] => RuleError.ofExpr do
      let a ← a.elements function.name
      let b ← b.elements function.name
      Value.isDisjoint b a
  | empty, [a] => RuleError.ofExpr do return (← a.elements function.name).isEmpty
  | entitySetInclude, [.entities a, .entities b] => helpers.entitySetInclude a b
  | conditionSetInclude, [.conditions a, .conditions b] => helpers.conditionSetInclude a b
  | conditionContradict, [.conditions a] => helpers.conditionContradict a
  | entitySetInclude, [a, b] => .error (function.kindError "entity list" a b)
  | conditionSetInclude, [a, b] => .error (function.kindError "condition list" a b)
  | _, arguments =>
      .error (.expression (.arity function.name function.arity arguments.length))

end Builtin

namespace Expr

def truthOf (purpose : String) (value : Except RuleError Value) : Except RuleError Bool := do
  RuleError.ofExpr ((← value).truth purpose)

mutual

def eval (helpers : Helpers) : Expr → Environment → Except RuleError Value
  | bool value, _ => .ok (.bool value)
  | text value, _ => .ok (.text value)
  | path root wanted, environment => RuleError.ofExpr do
      wanted.foldlM Value.reach (← environment.find root)
  | negation body, environment => do
      return .bool !(← truthOf "not" (eval helpers body environment))
  | conjunction items, environment => .bool <$> evalAll helpers items environment
  | disjunction items, environment => .bool <$> evalAny helpers items environment
  | comparison isEqual left right, environment => do
      let left ← eval helpers left environment
      let right ← eval helpers right environment
      return .bool ((← RuleError.ofExpr (left.equals right)) == isEqual)
  | call function arguments, environment => do
      let values ← evalEach helpers arguments environment
      return .bool (← function.apply helpers values)
  | quantified quantifier binder list body, environment => do
      let members ← RuleError.ofExpr ((← eval helpers list environment).elements "quantifier")
      let test := fun member =>
        truthOf "quantifier body" (eval helpers body ((binder, member) :: environment))
      return .bool (← quantifier.over test members)

/-- Whether all items are true, up to the first that is not. -/
def evalAll (helpers : Helpers) : List Expr → Environment → Except RuleError Bool
  | [], _ => .ok true
  | item :: items, environment => do
      if ← truthOf "and" (eval helpers item environment) then evalAll helpers items environment
      else return false

/-- Whether some item is true, up to the first that is. -/
def evalAny (helpers : Helpers) : List Expr → Environment → Except RuleError Bool
  | [], _ => .ok false
  | item :: items, environment => do
      if ← truthOf "or" (eval helpers item environment) then return true
      else evalAny helpers items environment

def evalEach (helpers : Helpers) : List Expr → Environment → Except RuleError (List Value)
  | [], _ => .ok []
  | item :: items, environment => do
      let value ← eval helpers item environment
      return value :: (← evalEach helpers items environment)

end

def bindings (a b : Value) : Environment :=
  [("b", b), ("a", a)]

end Expr

end ReqConflict
