import ReqConflict.Proofs.Expr.Calls
import ReqConflict.Proofs.Expr.Stack

/-!
# Variables without names

A variable stands for the member that the innermost quantifier of its name is
at, or for one of the two compared values.  Which of them it is can be read off
the text: it is told by how many bindings are between the variable and its own,
counted outwards.  An expression is evaluated like the expression in which all
variables are replaced by these numbers, so that names have no part in it.
-/

namespace ReqConflict

/-- An expression whose variables say how many bindings out their own is. -/
inductive Nameless where
  | bool (value : Bool)
  | text (value : String)
  | path (place : Nat) (attributes : List Attribute)
  | negation (body : Nameless)
  | conjunction (items : List Nameless)
  | disjunction (items : List Nameless)
  | comparison (isEqual : Bool) (left right : Nameless)
  | call (function : Builtin) (arguments : List Nameless)
  | quantified (quantifier : Quantifier) (list body : Nameless)

namespace Nameless

open ReqConflict.Expr (truthOf)

mutual

/-- The value of an expression where these values are bound, the innermost
first. -/
def eval (helpers : Helpers) : Nameless → List Value → Except RuleError Value
  | bool value, _ => .ok (.bool value)
  | text value, _ => .ok (.text value)
  | path place wanted, bound =>
      RuleError.ofExpr (wanted.foldlM Value.reach (bound.getD place .nothing))
  | negation body, bound => do
      return .bool !(← truthOf "not" (eval helpers body bound))
  | conjunction items, bound => .bool <$> evalAll helpers items bound
  | disjunction items, bound => .bool <$> evalAny helpers items bound
  | comparison isEqual left right, bound => do
      let left ← eval helpers left bound
      let right ← eval helpers right bound
      return .bool ((← RuleError.ofExpr (left.equals right)) == isEqual)
  | call function arguments, bound => do
      let values ← evalEach helpers arguments bound
      return .bool (← function.apply helpers values)
  | quantified quantifier list body, bound => do
      let members ← RuleError.ofExpr ((← eval helpers list bound).elements "quantifier")
      let test := fun member =>
        truthOf "quantifier body" (eval helpers body (member :: bound))
      return .bool (← quantifier.over test members)

def evalAll (helpers : Helpers) : List Nameless → List Value → Except RuleError Bool
  | [], _ => .ok true
  | item :: items, bound => do
      if ← truthOf "and" (eval helpers item bound) then evalAll helpers items bound
      else return false

def evalAny (helpers : Helpers) : List Nameless → List Value → Except RuleError Bool
  | [], _ => .ok false
  | item :: items, bound => do
      if ← truthOf "or" (eval helpers item bound) then return true
      else evalAny helpers items bound

def evalEach (helpers : Helpers) : List Nameless → List Value → Except RuleError (List Value)
  | [], _ => .ok []
  | item :: items, bound => do
      let value ← eval helpers item bound
      return value :: (← evalEach helpers items bound)

end

end Nameless

namespace Expr

mutual

/-- The expression with its variables numbered, where these names are bound,
the innermost first. -/
def nameless (scope : List String) : Expr → Nameless
  | bool value => .bool value
  | text value => .text value
  | path root wanted => .path (scope.idxOf root) wanted
  | negation body => .negation (nameless scope body)
  | conjunction items => .conjunction (namelessAll scope items)
  | disjunction items => .disjunction (namelessAll scope items)
  | comparison isEqual left right =>
      .comparison isEqual (nameless scope left) (nameless scope right)
  | call function arguments => .call function (namelessAll scope arguments)
  | quantified quantifier binder list body =>
      .quantified quantifier (nameless scope list) (nameless (binder :: scope) body)

def namelessAll (scope : List String) : List Expr → List Nameless
  | [] => []
  | item :: items => nameless scope item :: namelessAll scope items

end

variable {helpers : Helpers}

mutual

theorem eval_nameless : ∀ (expr : Expr) (environment : Environment),
    expr.isFormed (environment.map Prod.fst) = true →
      (expr.nameless (environment.map Prod.fst)).eval helpers (environment.map Prod.snd) =
        expr.eval helpers environment
  | bool value, _, _ => rfl
  | text value, _, _ => rfl
  | path root wanted, environment, hformed => by
      rw [eval_path, environment.find_eq_ok hformed]
      rfl
  | negation body, environment, hformed => by
      rw [nameless, Nameless.eval, eval_nameless body environment hformed]
      rfl
  | conjunction items, environment, hformed => by
      rw [isFormed, Bool.and_eq_true] at hformed
      rw [nameless, Nameless.eval, evalAll_nameless items environment hformed.2]
      rfl
  | disjunction items, environment, hformed => by
      rw [isFormed, Bool.and_eq_true] at hformed
      rw [nameless, Nameless.eval, evalAny_nameless items environment hformed.2]
      rfl
  | comparison isEqual left right, environment, hformed => by
      rw [isFormed, Bool.and_eq_true] at hformed
      rw [nameless, Nameless.eval, eval_nameless left environment hformed.1,
        eval_nameless right environment hformed.2]
      rfl
  | call function arguments, environment, hformed => by
      rw [isFormed, Bool.and_eq_true] at hformed
      rw [nameless, Nameless.eval, evalEach_nameless arguments environment hformed.2]
      rfl
  | quantified quantifier binder list body, environment, hformed => by
      rw [isFormed, Bool.and_eq_true] at hformed
      have hbody : ∀ member, (body.nameless (binder :: environment.map Prod.fst)).eval helpers
          (member :: environment.map Prod.snd) =
            body.eval helpers ((binder, member) :: environment) :=
        fun member => eval_nameless body ((binder, member) :: environment) hformed.2
      rw [nameless, Nameless.eval, eval_nameless list environment hformed.1]
      simp only [hbody]
      rfl

theorem evalAll_nameless : ∀ (items : List Expr) (environment : Environment),
    areFormed (environment.map Prod.fst) items = true →
      Nameless.evalAll helpers (namelessAll (environment.map Prod.fst) items)
        (environment.map Prod.snd) = evalAll helpers items environment
  | [], _, _ => rfl
  | item :: items, environment, hformed => by
      rw [areFormed, Bool.and_eq_true] at hformed
      rw [namelessAll, Nameless.evalAll, eval_nameless item environment hformed.1,
        evalAll_nameless items environment hformed.2]
      rfl

theorem evalAny_nameless : ∀ (items : List Expr) (environment : Environment),
    areFormed (environment.map Prod.fst) items = true →
      Nameless.evalAny helpers (namelessAll (environment.map Prod.fst) items)
        (environment.map Prod.snd) = evalAny helpers items environment
  | [], _, _ => rfl
  | item :: items, environment, hformed => by
      rw [areFormed, Bool.and_eq_true] at hformed
      rw [namelessAll, Nameless.evalAny, eval_nameless item environment hformed.1,
        evalAny_nameless items environment hformed.2]
      rfl

theorem evalEach_nameless : ∀ (items : List Expr) (environment : Environment),
    areFormed (environment.map Prod.fst) items = true →
      Nameless.evalEach helpers (namelessAll (environment.map Prod.fst) items)
        (environment.map Prod.snd) = evalEach helpers items environment
  | [], _, _ => rfl
  | item :: items, environment, hformed => by
      rw [areFormed, Bool.and_eq_true] at hformed
      rw [namelessAll, Nameless.evalEach, eval_nameless item environment hformed.1,
        evalEach_nameless items environment hformed.2]
      rfl

end

/-- Evaluation leaves every stack as it found it.  A comparison of a text that
was read does not miss any variable, and every variable stands for the
innermost binding of its name around it, the outermost ones being those of the
second value to `b` and of the first value to `a`. -/
theorem runOn_evaluate_and_compare_nameless {text : String} {comparison : Expr}
    (hread : Expr.read text = .ok comparison) (helpers : Helpers) :
    (∀ (expr : Expr) (stack : Environment),
        (expr.evaluate helpers).runOn stack = (expr.eval helpers stack, stack)) ∧
      ((∀ request name, helpers.answer request ≠ .error (.expression (.unboundVariable name))) →
        ∀ a b name, comparison.compare helpers a b ≠
          .error (.expression (.unboundVariable name))) ∧
      ∀ a b, comparison.compare helpers a b =
        truthOf "comparison" ((comparison.nameless ["b", "a"]).eval helpers [b, a]) := by
  refine ⟨fun expr => restores_evaluate expr, ?_, ?_⟩
  · intro hhelpers a b name herror
    rcases cases_of_compare_eq_error hread herror with
      ⟨cause, hcause, hmisfit | ⟨wanted, kind, rfl⟩⟩ | ⟨request, hrequest⟩ |
        ⟨value, hcalls, hvalue⟩
    · cases hcause
      exact hmisfit.elim
    · cases hcause
    · exact hhelpers request name hrequest
    · have harity := hcalls.compare_eq_error (Builtin.conditionContradict_of_not_takes hvalue)
      cases herror.symm.trans harity
  · intro a b
    rw [compare_eq, ← eval_nameless comparison (bindings a b) (Site.isFormed_of_read hread a b)]
    rfl

/-- Both quantifiers bind a name that is bound already. -/
def rebinding : Expr :=
  quantified .any "a" (path "a" [])
    (quantified .any "b" (path "b" []) (comparison true (path "a" [.base]) (path "b" [])))

/-- A list is not in the scope of its own quantifier, and the body is. -/
theorem runOn_evaluate_and_compare_nameless_rebinding :
    let a := Value.entities [.own ⟨"user", .empty, false⟩]
    let b := Value.strings ["admin", "user"]
    rebinding.toText = "any(a in a, any(b in b, a.base == b))" ∧
      Expr.read rebinding.toText = .ok rebinding ∧
      rebinding.nameless ["b", "a"] =
        .quantified .any (.path 1 [])
          (.quantified .any (.path 1 []) (.comparison true (.path 1 [.base]) (.path 0 []))) ∧
      rebinding.compare .none a b = .ok true ∧
      (rebinding.evaluate .none).runOn (bindings a b) = (.ok (.bool true), bindings a b) := by
  intro a b
  have hread : Expr.read rebinding.toText = .ok rebinding := read_of_isSpelled (by decide) (by decide)
  have hscope := runOn_evaluate_and_compare_nameless hread .none
  have hcompare : rebinding.compare .none a b = .ok true := by
    rw [hscope.2.2 a b]
    rfl
  refine ⟨by decide, hread, rfl, hcompare, ?_⟩
  rw [hscope.1]
  rfl

end Expr

end ReqConflict
