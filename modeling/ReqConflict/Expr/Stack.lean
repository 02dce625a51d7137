import ReqConflict.Expr.Eval

/-!
# Evaluating on a stack

Expressions are evaluated on one stack of bindings, the innermost on top.  A
quantifier pushes a binding for each member that it goes to, and pops it when
its body is done with that member, whether or not the body had a value there.
All else reads the stack only.
-/

namespace ReqConflict

/-- A computation on the stack of bindings, which leaves a stack behind also
where it fails. -/
abbrev Stacked :=
  ExceptT RuleError (StateM Environment)

namespace Stacked

variable {α : Type}

/-- The result of a computation, and the stack that it leaves. -/
def runOn (computation : Stacked α) (stack : Environment) : Except RuleError α × Environment :=
  computation.run.run stack

def ofResult (result : Except RuleError α) : Stacked α :=
  ExceptT.mk (pure result)

def push (name : String) (value : Value) : Stacked Unit :=
  modify fun stack => (name, value) :: stack

def pop : Stacked Unit :=
  modify List.tail

/-- Runs a body with one more binding, which is taken off however the body
ends. -/
def binding (name : String) (value : Value) (body : Stacked α) : Stacked α := do
  push name value
  let result ← ExceptT.lift body.run
  pop
  ofResult result

/-- Goes through members, each of them bound while the body tests it, until a
test decides. -/
def quantify (quantifier : Quantifier) (binder : String) (body : Stacked Bool) :
    List Value → Stacked Bool
  | [] => pure (quantifier == .all)
  | member :: members => do
      if (← binding binder member body) == (quantifier == .any) then return quantifier == .any
      else quantify quantifier binder body members

def truth (purpose : String) (computation : Stacked Value) : Stacked Bool := do
  ofResult (RuleError.ofExpr ((← computation).truth purpose))

end Stacked

namespace Expr

open Stacked (ofResult truth quantify)

mutual

def evaluate (helpers : Helpers) : Expr → Stacked Value
  | bool value => pure (.bool value)
  | text value => pure (.text value)
  | path root wanted => do
      let stack ← get
      ofResult (RuleError.ofExpr do wanted.foldlM Value.reach (← stack.find root))
  | negation body => do return .bool !(← truth "not" (evaluate helpers body))
  | conjunction items => do return .bool (← evaluateAll helpers items)
  | disjunction items => do return .bool (← evaluateAny helpers items)
  | comparison isEqual left right => do
      let left ← evaluate helpers left
      let right ← evaluate helpers right
      return .bool ((← ofResult (RuleError.ofExpr (left.equals right))) == isEqual)
  | call function arguments => do
      let values ← evaluateEach helpers arguments
      return .bool (← ofResult (function.apply helpers values))
  | quantified quantifier binder list body => do
      let value ← evaluate helpers list
      let members ← ofResult (RuleError.ofExpr (value.elements "quantifier"))
      let test := truth "quantifier body" (evaluate helpers body)
      return .bool (← quantify quantifier binder test members)

/-- Whether all items are true, up to the first that is not. -/
def evaluateAll (helpers : Helpers) : List Expr → Stacked Bool
  | [] => pure true
  | item :: items => do
      if ← truth "and" (evaluate helpers item) then evaluateAll helpers items else return false

/-- Whether some item is true, up to the first that is. -/
def evaluateAny (helpers : Helpers) : List Expr → Stacked Bool
  | [] => pure false
  | item :: items => do
      if ← truth "or" (evaluate helpers item) then return true else evaluateAny helpers items

def evaluateEach (helpers : Helpers) : List Expr → Stacked (List Value)
  | [] => pure []
  | item :: items => do
      let value ← evaluate helpers item
      return value :: (← evaluateEach helpers items)

end

/-- Compares two values by an expression over `a` and `b`. -/
def compare (helpers : Helpers) (comparison : Expr) (a b : Value) : Except RuleError Bool :=
  (Stacked.runOn (truth "comparison" (comparison.evaluate helpers)) (bindings a b)).1

end Expr

end ReqConflict
