import ReqConflict.Proofs.BuiltinRules.RuleSet
import ReqConflict.Proofs.Rule.Truth

/-!
# Exchanging the sides of a rule

A rule that calls no other rule treats its two subjects alike.  With its sides
exchanged throughout it says of `x` and `y` what it says of `y` and `x`, errors
included.  In a loop a condition takes the place of the owner of the list, so
the law passes through a loop because it holds of all subjects at once.
-/

namespace ReqConflict

def Side.other : Side → Side
  | first => second
  | second => first

@[simp] theorem Side.other_other (side : Side) : side.other.other = side := by
  cases side <;> rfl

@[simp] theorem Side.pick_other {α : Type} (x y : α) (side : Side) :
    side.other.pick x y = side.pick y x := by
  cases side <;> rfl

namespace Rule

mutual

/-- The rule about the same fields of the other subjects.  What a call and an
interlock are about is not written in the rule, so they stay as they are. -/
def swap : Rule → Rule
  | relation left field1 name right field2 => relation left.other field1 name right.other field2
  | negation body => negation (swap body)
  | conjunction items => conjunction (swapEach items)
  | disjunction items => disjunction (swapEach items)
  | named index name body => named index name body
  | loop quantifier owner field body => loop quantifier owner.other field (swap body)
  | interlock index inconsistency => interlock index inconsistency

def swapEach : List Rule → List Rule
  | [] => []
  | item :: items => swap item :: swapEach items

end

mutual

/-- No part of the rule calls a rule. -/
def IsCallFree : Rule → Prop
  | relation .. => True
  | negation body | loop _ _ _ body => IsCallFree body
  | conjunction items | disjunction items => AreCallFree items
  | named .. | interlock .. => False

def AreCallFree : List Rule → Prop
  | [] => True
  | item :: items => IsCallFree item ∧ AreCallFree items

end

mutual

theorem swap_swap : ∀ rule : Rule, rule.swap.swap = rule
  | relation .. => by simp [swap]
  | negation body => by simp [swap, swap_swap body]
  | conjunction items | disjunction items => by simp [swap, swapEach_swapEach items]
  | named .. | interlock .. => rfl
  | loop _ _ _ body => by simp [swap, swap_swap body]

theorem swapEach_swapEach : ∀ items : List Rule, swapEach (swapEach items) = items
  | [] => rfl
  | item :: items => by simp [swapEach, swap_swap item, swapEach_swapEach items]

end

section Evaluation

variable {registry : Registry} {helpers : Helpers}

mutual

theorem eval_swap_eq :
    ∀ rule : Rule, rule.IsCallFree → ∀ x y : Subject,
      rule.swap.eval registry helpers x y = rule.eval registry helpers y x
  | relation .., _, x, y => by simp only [swap, eval_relation, Side.pick_other]
  | negation body, hbody, x, y => by
      rw [IsCallFree] at hbody
      simp only [swap, eval_negation, eval_swap_eq body hbody x y]
  | conjunction items, hitems, x, y => by
      rw [IsCallFree] at hitems
      simp only [swap, eval_conjunction, evalAll_swapEach items hitems x y]
  | disjunction items, hitems, x, y => by
      rw [IsCallFree] at hitems
      simp only [swap, eval_disjunction, evalAny_swapEach items hitems x y]
  | loop quantifier .first field body, hbody, x, y => by
      rw [IsCallFree] at hbody
      -- the conditions of `y` stand on the second side now, and `x` stays on the first
      have hswap : ∀ c : Condition, body.swap.eval registry helpers x (.condition c) =
          body.eval registry helpers (.condition c) x :=
        fun c => eval_swap_eq body hbody x (.condition c)
      simp only [swap, Side.other, eval_loop_first, eval_loop_second, hswap]
  | loop quantifier .second field body, hbody, x, y => by
      rw [IsCallFree] at hbody
      have hswap : ∀ c : Condition, body.swap.eval registry helpers (.condition c) y =
          body.eval registry helpers y (.condition c) :=
        fun c => eval_swap_eq body hbody (.condition c) y
      simp only [swap, Side.other, eval_loop_first, eval_loop_second, hswap]
  | named .., hcall, _, _ | interlock .., hcall, _, _ => by simp [IsCallFree] at hcall

theorem evalAll_swapEach :
    ∀ items : List Rule, AreCallFree items → ∀ x y : Subject,
      evalAll registry helpers (swapEach items) x y = evalAll registry helpers items y x
  | [], _, _, _ => rfl
  | item :: items, hitems, x, y => by
      rw [AreCallFree] at hitems
      simp only [swapEach, evalAll_cons, eval_swap_eq item hitems.1 x y,
        evalAll_swapEach items hitems.2 x y]

theorem evalAny_swapEach :
    ∀ items : List Rule, AreCallFree items → ∀ x y : Subject,
      evalAny registry helpers (swapEach items) x y = evalAny registry helpers items y x
  | [], _, _, _ => rfl
  | item :: items, hitems, x, y => by
      rw [AreCallFree] at hitems
      simp only [swapEach, evalAny_cons, eval_swap_eq item hitems.1 x y,
        evalAny_swapEach items hitems.2 x y]

end

end Evaluation

/-- Exchanging the sides of a rule exchanges its subjects. -/
theorem eval_swap (rules : RuleSet) (rule : Rule) (hrule : rule.IsCallFree) (x y : Subject) :
    rule.swap.eval rules.registry rules.helpers x y =
        rule.eval rules.registry rules.helpers y x ∧
      rule.swap.swap = rule :=
  ⟨eval_swap_eq rule hrule x y, swap_swap rule⟩

/-- Every agent in the events of the first subject includes one in the events
of the second. -/
def agentsInclude : Rule :=
  .loop .all .first "event"
    (.loop .any .second "event" (.relation .first "agent" .includes .second "agent"))

/-- A requirement triggered by what users do. -/
def triggeredBy (modifiers : Modifiers) (isAll : Bool) : Requirement :=
  { (default : Requirement) with
    events := [{ (default : Condition) with agent := .own ⟨"user", modifiers, isAll⟩ }] }

/-- All users include the new ones and not the other way round, and a condition
has no events on either side. -/
theorem eval_swap_agentsInclude :
    let rules := BuiltinRules.ruleSet
    let everyone : Subject := .requirement (triggeredBy .empty true)
    let newcomers : Subject := .requirement (triggeredBy (.ofList ["new"]) false)
    agentsInclude.IsCallFree ∧
      agentsInclude.eval rules.registry rules.helpers everyone newcomers = .ok true ∧
      agentsInclude.swap.eval rules.registry rules.helpers newcomers everyone = .ok true ∧
      agentsInclude.swap.eval rules.registry rules.helpers everyone newcomers = .ok false ∧
      agentsInclude.swap.eval rules.registry rules.helpers newcomers (.condition default) =
        .error (.missingField "event" "condition") := by
  intro rules everyone newcomers
  have hfree : agentsInclude.IsCallFree := by simp [agentsInclude, IsCallFree]
  have hforth : agentsInclude.eval rules.registry rules.helpers everyone newcomers = .ok true :=
    toOption_eq_some_iff.mp (by decide +kernel)
  have hback : agentsInclude.eval rules.registry rules.helpers newcomers everyone = .ok false :=
    toOption_eq_some_iff.mp (by decide +kernel)
  have hcondition : agentsInclude.eval rules.registry rules.helpers (.condition default) newcomers =
      .error (.missingField "event" "condition") :=
    rfl
  exact ⟨hfree, hforth, (eval_swap rules _ hfree _ _).1.trans hforth,
    (eval_swap rules _ hfree _ _).1.trans hback, (eval_swap rules _ hfree _ _).1.trans hcondition⟩

end Rule

end ReqConflict
