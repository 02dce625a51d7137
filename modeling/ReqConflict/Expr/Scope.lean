import ReqConflict.Expr.Grammar

/-!
# Resolving names

A phrase becomes an expression when its names are resolved: every variable is
`a`, `b` or bound by a quantifier around it, attributes and functions are known
ones, and every call has as many arguments as its function takes.
-/

namespace ReqConflict

namespace Phrase

def resolveAttributes (names : List String) : Except ExprError (List Attribute) :=
  names.mapM fun name =>
    match Attribute.ofName? name with
    | some known => .ok known
    | none => .error (.unknownAttribute name)

def resolveFunction (name : String) (count : Nat) : Except ExprError Builtin :=
  match Builtin.ofName? name with
  | none => .error (.unknownFunction name)
  | some function =>
      if count = function.arity then .ok function
      else .error (.arity name function.arity count)

mutual

/-- The expression that a phrase stands for where some variables are bound. -/
def resolve : Phrase → List String → Except ExprError Expr
  | bool value, _ => .ok (.bool value)
  | text value, _ => .ok (.text value)
  | path root names, scope =>
      if scope.contains root then (resolveAttributes names).map (.path root)
      else .error (.unboundVariable root)
  | negation body, scope => do return .negation (← resolve body scope)
  | conjunction items, scope => do return .conjunction (← resolveAll items scope)
  | disjunction items, scope => do return .disjunction (← resolveAll items scope)
  | comparison isEqual left right, scope => do
      let left ← resolve left scope
      return .comparison isEqual left (← resolve right scope)
  | call name arguments, scope => do
      let function ← resolveFunction name arguments.length
      return .call function (← resolveAll arguments scope)
  | quantified quantifier binder list body, scope => do
      let list ← resolve list scope
      return .quantified quantifier binder list (← resolve body (binder :: scope))

def resolveAll : List Phrase → List String → Except ExprError (List Expr)
  | [], _ => .ok []
  | item :: items, scope => do
      let item ← resolve item scope
      return item :: (← resolveAll items scope)

end

end Phrase

namespace Expr

def comparisonVariables : List String :=
  ["a", "b"]

def read (text : String) : Except ExprError Expr := do
  (← Phrase.read text).resolve comparisonVariables

end Expr

end ReqConflict
