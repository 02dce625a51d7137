import ReqConflict.Expr.Stack

/-!
# The stack is left as it was found

Evaluation answers on a stack what it answers by value in the environment that
the stack stands for, and leaves the stack as it was: every binding that is
pushed is popped again, with an answer and with an error from any depth.
-/

namespace ReqConflict

namespace Stacked

variable {α β : Type} {computation : Stacked α} {result : Environment → Except RuleError α}

/-- On every stack the computation has this result, and leaves the stack as it
was. -/
def Restores (computation : Stacked α) (result : Environment → Except RuleError α) : Prop :=
  ∀ stack, computation.runOn stack = (result stack, stack)

theorem restores_pure (value : α) : Restores (pure value) fun _ => .ok value :=
  fun _ => rfl

theorem restores_get : Restores get Except.ok :=
  fun _ => rfl

theorem restores_ofResult (answer : Except RuleError α) :
    Restores (ofResult answer) fun _ => answer :=
  fun _ => rfl

theorem runOn_bind (next : α → Stacked β) (stack : Environment) :
    (computation >>= next).runOn stack =
      match computation.runOn stack with
      | (.ok value, left) => (next value).runOn left
      | (.error error, left) => (.error error, left) := by
  change (ExceptT.bindCont next (computation.runOn stack).1).run (computation.runOn stack).2 = _
  cases computation.runOn stack with
  | mk answer left => cases answer <;> rfl

/-- What comes next runs on the same stack. -/
theorem Restores.bind {next : α → Stacked β} {following : α → Environment → Except RuleError β}
    (hcomputation : Restores computation result)
    (hnext : ∀ value, Restores (next value) (following value)) :
    Restores (computation >>= next) fun stack =>
      result stack >>= fun value => following value stack := by
  intro stack
  change _ = (result stack >>= fun value => following value stack, stack)
  rw [runOn_bind, hcomputation stack]
  cases result stack with
  | error error => rfl
  | ok value => exact hnext value stack

/-- The body has one more binding to run with, and the stack has none more
afterwards. -/
theorem Restores.binding (name : String) (value : Value)
    (hcomputation : Restores computation result) :
    Restores (binding name value computation) fun stack => result ((name, value) :: stack) := by
  intro stack
  change ((computation.runOn ((name, value) :: stack)).1,
    (computation.runOn ((name, value) :: stack)).2.tail) = _
  rw [hcomputation, List.tail_cons]

theorem Restores.quantify {body : Stacked Bool} {test : Environment → Except RuleError Bool}
    (quantifier : Quantifier) (binder : String) (hbody : Restores body test)
    (members : List Value) :
    Restores (quantify quantifier binder body members) fun stack =>
      quantifier.over (fun member => test ((binder, member) :: stack)) members := by
  induction members with
  | nil => exact restores_pure _
  | cons member members ih =>
      apply (hbody.binding binder member).bind
      intro value
      cases value == (quantifier == .any) with
      | true => exact restores_pure _
      | false => exact ih

theorem Restores.truth {computation : Stacked Value}
    {result : Environment → Except RuleError Value} (purpose : String)
    (hcomputation : Restores computation result) :
    Restores (truth purpose computation) fun stack => Expr.truthOf purpose (result stack) :=
  hcomputation.bind fun _ => restores_ofResult _

end Stacked

namespace Expr

open Stacked

variable {helpers : Helpers}

mutual

theorem restores_evaluate : ∀ expr : Expr,
    Restores (expr.evaluate helpers) (expr.eval helpers)
  | bool value => restores_pure (Value.bool value)
  | text value => restores_pure (Value.text value)
  | path root wanted => restores_get.bind fun _ => restores_ofResult _
  | negation body => ((restores_evaluate body).truth "not").bind fun _ => restores_pure _
  | conjunction items => by
      intro stack
      rw [eval, map_eq_pure_bind]
      exact (restores_evaluateAll items).bind (fun _ => restores_pure _) stack
  | disjunction items => by
      intro stack
      rw [eval, map_eq_pure_bind]
      exact (restores_evaluateAny items).bind (fun _ => restores_pure _) stack
  | comparison isEqual left right => by
      apply (restores_evaluate left).bind
      intro a
      apply (restores_evaluate right).bind
      intro b
      exact (restores_ofResult _).bind fun _ => restores_pure _
  | call function arguments => by
      apply (restores_evaluateEach arguments).bind
      intro values
      exact (restores_ofResult _).bind fun _ => restores_pure _
  | quantified quantifier binder list body => by
      apply (restores_evaluate list).bind
      intro value
      apply (restores_ofResult (RuleError.ofExpr (value.elements "quantifier"))).bind
      intro members
      have hbody := (restores_evaluate body).truth "quantifier body"
      exact (hbody.quantify quantifier binder members).bind fun _ => restores_pure _

theorem restores_evaluateAll : ∀ items : List Expr,
    Restores (evaluateAll helpers items) (evalAll helpers items)
  | [] => restores_pure true
  | item :: items => by
      apply ((restores_evaluate item).truth "and").bind
      intro isTrue
      cases isTrue with
      | true => exact restores_evaluateAll items
      | false => exact restores_pure false

theorem restores_evaluateAny : ∀ items : List Expr,
    Restores (evaluateAny helpers items) (evalAny helpers items)
  | [] => restores_pure false
  | item :: items => by
      apply ((restores_evaluate item).truth "or").bind
      intro isTrue
      cases isTrue with
      | true => exact restores_pure true
      | false => exact restores_evaluateAny items

theorem restores_evaluateEach : ∀ items : List Expr,
    Restores (evaluateEach helpers items) (evalEach helpers items)
  | [] => restores_pure []
  | item :: items => by
      apply (restores_evaluate item).bind
      intro value
      exact (restores_evaluateEach items).bind fun _ => restores_pure _

end

/-- Comparing on a stack answers what comparing by value does. -/
theorem compare_eq (comparison : Expr) (a b : Value) :
    comparison.compare helpers a b =
      truthOf "comparison" (comparison.eval helpers (bindings a b)) := by
  rw [compare, ((restores_evaluate comparison).truth "comparison") (bindings a b)]

end Expr

end ReqConflict
