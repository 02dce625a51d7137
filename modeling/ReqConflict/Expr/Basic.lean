import ReqConflict.Requirement

/-!
# Comparison expressions

Rules documents compare two values by expressions over the variables `a` and
`b`.  The language is closed: all attributes and functions are known, and an
expression is resolved before it is evaluated, so that every variable is bound
and every call has the right number of arguments.
-/

namespace ReqConflict

inductive Quantifier where
  | any
  | all
deriving DecidableEq, Repr

def Quantifier.name : Quantifier → String
  | .any => "any"
  | .all => "all"

def Quantifier.ofName? (name : String) : Option Quantifier :=
  [Quantifier.any, .all].find? fun known => known.name == name

/-- What a dot reaches in a value. -/
inductive Attribute where
  | base
  | modifier
  | isAll
  | entirety
  | predicate
  | negated
  | able
  | agent
  | operation
  | input
  | output
  | restriction
  | event
deriving DecidableEq, Repr

namespace Attribute

def name : Attribute → String
  | base => "base"
  | modifier => "modifier"
  | isAll => "is_all"
  | entirety => "entirety"
  | predicate => "predicate"
  | negated => "not"
  | able => "able"
  | agent => "agent"
  | operation => "operation"
  | input => "input"
  | output => "output"
  | restriction => "restriction"
  | event => "event"

def every : List Attribute :=
  [base, modifier, isAll, entirety, predicate, negated, able, agent, operation, input, output,
    restriction, event]

def ofName? (name : String) : Option Attribute :=
  every.find? fun known => known.name == name

end Attribute

inductive Builtin where
  | setEqual
  | subset
  | disjoint
  | empty
  | entitySetInclude
  | conditionSetInclude
  | conditionContradict
deriving DecidableEq, Repr

namespace Builtin

def name : Builtin → String
  | setEqual => "set_eq"
  | subset => "subset"
  | disjoint => "disjoint"
  | empty => "empty"
  | entitySetInclude => "entity_set_include"
  | conditionSetInclude => "condition_set_include"
  | conditionContradict => "condition_contradict"

def arity : Builtin → Nat
  | empty | conditionContradict => 1
  | _ => 2

def every : List Builtin :=
  [setEqual, subset, disjoint, empty, entitySetInclude, conditionSetInclude, conditionContradict]

def ofName? (name : String) : Option Builtin :=
  every.find? fun known => known.name == name

end Builtin

inductive Expr where
  | bool (value : Bool)
  | text (value : String)
  | path (root : String) (attributes : List Attribute)
  | negation (body : Expr)
  | conjunction (items : List Expr)
  | disjunction (items : List Expr)
  /-- Equality, or its negation if `isEqual` is false. -/
  | comparison (isEqual : Bool) (left right : Expr)
  | call (function : Builtin) (arguments : List Expr)
  | quantified (quantifier : Quantifier) (binder : String) (list body : Expr)
deriving Repr, Inhabited

namespace Expr

mutual

def calls (function : Builtin) : Expr → Bool
  | bool _ | text _ | path .. => false
  | negation body => calls function body
  | conjunction items | disjunction items => callsAny function items
  | comparison _ left right => calls function left || calls function right
  | call called arguments => called == function || callsAny function arguments
  | quantified _ _ list body => calls function list || calls function body

def callsAny (function : Builtin) : List Expr → Bool
  | [] => false
  | item :: items => calls function item || callsAny function items

end

end Expr

/-- Why an expression cannot be read, or has no value. -/
inductive ExprError where
  | malformed (trace : String)
  | unknownFunction (name : String)
  | arity (function : String) (expected found : Nat)
  | unknownAttribute (name : String)
  | unboundVariable (name : String)
  | noAttribute (wanted : Attribute) (found : String)
  | kind (operation expected found : String)
  | incomparable (left right : String)
deriving DecidableEq, Repr

namespace ExprError

def message : ExprError → String
  | malformed trace => "syntax error in expression:\n" ++ trace
  | unknownFunction name => "unknown function '" ++ name ++ "'"
  | arity function expected found =>
      "function '" ++ function ++ "' takes " ++ toString expected ++ " argument(s), found "
        ++ toString found
  | unknownAttribute name => "unknown attribute '" ++ name ++ "'"
  | unboundVariable name => "unbound variable '" ++ name ++ "'"
  | noAttribute wanted found => found ++ " has no attribute '" ++ wanted.name ++ "'"
  | kind operation expected found => operation ++ " expects " ++ expected ++ ", found " ++ found
  | incomparable left right => "cannot compare " ++ left ++ " with " ++ right

end ExprError

end ReqConflict
