import Mathlib.Logic.Relation
import ReqConflict.Proofs.Expr.Requests
import ReqConflict.Proofs.Expr.Stack

/-!
# Functions that an expression calls

`Expr.calls` looks through the text of an expression for calls of a function,
and finds every one that is there, at any depth.  Evaluation makes requests of
its helpers by such calls only.  So two helpers that answer the called functions
alike cannot be told apart by evaluating the expression, whatever else they do,
on any stack of bindings.
-/

namespace ReqConflict

/-- The function whose calls make a request. -/
def Request.function : Request → Builtin
  | entitySetInclude .. => .entitySetInclude
  | conditionSetInclude .. => .conditionSetInclude
  | conditionContradict .. => .conditionContradict

/-- The helpers answer all calls of a function alike.  A set function is not
answered by a helper. -/
def Helpers.AgreeOn (function : Builtin) (helpers others : Helpers) : Prop :=
  ∀ request : Request, request.function = function →
    others.answer request = helpers.answer request

theorem Builtin.function_of_mem_requests {function : Builtin} {values : List Value}
    {request : Request} (hrequest : request ∈ function.requests values) :
    request.function = function := by
  unfold requests at hrequest
  split at hrequest
  case h_4 => cases hrequest
  all_goals exact List.mem_singleton.mp hrequest ▸ rfl

theorem Request.exists_of_mem_after {α : Type} {result : Except RuleError α}
    {next : α → List Request} {request : Request} (hrequest : request ∈ after result next) :
    ∃ value, result = .ok value ∧ request ∈ next value := by
  cases result with
  | error error => cases hrequest
  | ok value => exact ⟨value, rfl, hrequest⟩

theorem Quantifier.exists_of_mem_requests {α : Type} {quantifier : Quantifier}
    {test : α → Except RuleError Bool} {requests : α → List Request} {items : List α}
    {request : Request} (hrequest : request ∈ quantifier.requests test requests items) :
    ∃ item ∈ items, request ∈ requests item := by
  induction items with
  | nil => cases hrequest
  | cons item items ih =>
      rcases List.mem_append.mp hrequest with hitem | hafter
      · exact ⟨item, List.mem_cons_self, hitem⟩
      · obtain ⟨truth, _, hitems⟩ := Request.exists_of_mem_after hafter
        split at hitems
        · cases hitems
        · obtain ⟨other, hother, hmem⟩ := ih hitems
          exact ⟨other, List.mem_cons_of_mem item hother, hmem⟩

/-- No value ranks above a list of conditions. -/
theorem Environment.within_two (environment : Environment) : environment.Within 2 := by
  intro binding _
  cases binding.2 <;> simp [Value.rank]

namespace Expr

/-- The expressions that an expression is made of. -/
def parts : Expr → List Expr
  | bool _ | text _ | path .. => []
  | negation body => [body]
  | conjunction items | disjunction items => items
  | comparison _ left right => [left, right]
  | call _ arguments => arguments
  | quantified _ _ list body => [list, body]

/-- The second expression occurs in the first, at any depth. -/
def Contains : Expr → Expr → Prop :=
  Relation.ReflTransGen fun expr part => part ∈ expr.parts

variable {expr part : Expr} {function : Builtin}

theorem sizeOf_lt_of_mem_parts (hpart : part ∈ expr.parts) : sizeOf part < sizeOf expr := by
  cases expr with
  | bool _ | text _ | path _ _ => cases hpart
  | negation body =>
      rw [List.mem_singleton.mp hpart, negation.sizeOf_spec]
      omega
  | conjunction items | disjunction items | call called items =>
      have hlt := List.sizeOf_lt_of_mem hpart
      simp only [conjunction.sizeOf_spec, disjunction.sizeOf_spec, call.sizeOf_spec, parts] at hlt ⊢
      omega
  | comparison isEqual left right =>
      have hcases : part = left ∨ part = right := by simpa [parts] using hpart
      rw [comparison.sizeOf_spec]
      rcases hcases with rfl | rfl <;> omega
  | quantified quantifier binder list body =>
      have hcases : part = list ∨ part = body := by simpa [parts] using hpart
      rw [quantified.sizeOf_spec]
      rcases hcases with rfl | rfl <;> omega

theorem callsAny_iff {items : List Expr} :
    callsAny function items = true ↔ ∃ item ∈ items, item.calls function = true := by
  induction items with
  | nil => simp [callsAny]
  | cons item items ih => simp [callsAny, ih]

/-- A function is called by the expression itself or by one of its parts. -/
theorem calls_iff_parts :
    expr.calls function = true ↔
      (∃ arguments, expr = call function arguments) ∨
        ∃ part ∈ expr.parts, part.calls function = true := by
  cases expr with
  | bool _ | text _ | path _ _ => simp [calls, parts]
  | negation body => simp [calls, parts]
  | conjunction items | disjunction items => simp [calls, parts, callsAny_iff]
  | comparison isEqual left right => simp [calls, parts]
  | call called arguments => simp [calls, parts, callsAny_iff]
  | quantified quantifier binder list body => simp [calls, parts]

theorem calls_of_mem_parts (hpart : part ∈ expr.parts) (hcalls : part.calls function = true) :
    expr.calls function = true :=
  calls_iff_parts.mpr (Or.inr ⟨part, hpart, hcalls⟩)

theorem exists_contains_of_calls (expr : Expr) (hcalls : expr.calls function = true) :
    ∃ arguments, expr.Contains (call function arguments) := by
  -- not an induction on the constructors, which have parts in lists
  rcases calls_iff_parts.mp hcalls with ⟨arguments, rfl⟩ | ⟨part, hpart, hcalls⟩
  · exact ⟨arguments, .refl⟩
  · have hsmaller := sizeOf_lt_of_mem_parts hpart
    obtain ⟨arguments, hcontains⟩ := exists_contains_of_calls part hcalls
    exact ⟨arguments, .head hpart hcontains⟩
termination_by sizeOf expr

/-- No call is overlooked, and none is reported that is not there. -/
theorem calls_iff_contains :
    expr.calls function = true ↔ ∃ arguments, expr.Contains (call function arguments) := by
  constructor
  · exact exists_contains_of_calls expr
  · rintro ⟨arguments, hcontains⟩
    induction hcontains using Relation.ReflTransGen.head_induction_on with
    | refl => exact calls_iff_parts.mpr (Or.inl ⟨arguments, rfl⟩)
    | head hpart _ ih => exact calls_of_mem_parts hpart ih

/-! ## Requests -/

variable {helpers others : Helpers} {environment : Environment} {request : Request}

mutual

/-- Every request is made by a call that the expression contains. -/
theorem calls_of_mem_requests : ∀ (expr : Expr) (environment : Environment),
    request ∈ expr.requests helpers environment → expr.calls request.function = true
  | bool _, _, hrequest | text _, _, hrequest | path .., _, hrequest => nomatch hrequest
  | negation body, environment, hrequest => calls_of_mem_requests body environment hrequest
  | conjunction items, environment, hrequest =>
      callsAny_of_mem_requestsAll items environment hrequest
  | disjunction items, environment, hrequest =>
      callsAny_of_mem_requestsAny items environment hrequest
  | comparison isEqual left right, environment, hrequest => by
      rw [calls, Bool.or_eq_true]
      rcases List.mem_append.mp hrequest with hleft | hafter
      · exact Or.inl (calls_of_mem_requests left environment hleft)
      · obtain ⟨_, _, hright⟩ := Request.exists_of_mem_after hafter
        exact Or.inr (calls_of_mem_requests right environment hright)
  | call called arguments, environment, hrequest => by
      rw [calls, Bool.or_eq_true, beq_iff_eq]
      rcases List.mem_append.mp hrequest with harguments | hafter
      · exact Or.inr (callsAny_of_mem_requestsEach arguments environment harguments)
      · obtain ⟨_, _, hcall⟩ := Request.exists_of_mem_after hafter
        exact Or.inl (Builtin.function_of_mem_requests hcall).symm
  | quantified quantifier binder list body, environment, hrequest => by
      rw [calls, Bool.or_eq_true]
      rcases List.mem_append.mp hrequest with hlist | hafter
      · exact Or.inl (calls_of_mem_requests list environment hlist)
      · obtain ⟨_, _, hafter⟩ := Request.exists_of_mem_after hafter
        obtain ⟨_, _, hmembers⟩ := Request.exists_of_mem_after hafter
        obtain ⟨member, _, hbody⟩ := Quantifier.exists_of_mem_requests hmembers
        exact Or.inr (calls_of_mem_requests body _ hbody)

theorem callsAny_of_mem_requestsAll : ∀ (items : List Expr) (environment : Environment),
    request ∈ requestsAll helpers items environment → callsAny request.function items = true
  | [], _, hrequest => nomatch hrequest
  | item :: items, environment, hrequest => by
      rw [callsAny, Bool.or_eq_true]
      rcases List.mem_append.mp hrequest with hitem | hafter
      · exact Or.inl (calls_of_mem_requests item environment hitem)
      · obtain ⟨_, _, hitems⟩ := Request.exists_of_mem_after hafter
        split at hitems
        · exact Or.inr (callsAny_of_mem_requestsAll items environment hitems)
        · cases hitems

theorem callsAny_of_mem_requestsAny : ∀ (items : List Expr) (environment : Environment),
    request ∈ requestsAny helpers items environment → callsAny request.function items = true
  | [], _, hrequest => nomatch hrequest
  | item :: items, environment, hrequest => by
      rw [callsAny, Bool.or_eq_true]
      rcases List.mem_append.mp hrequest with hitem | hafter
      · exact Or.inl (calls_of_mem_requests item environment hitem)
      · obtain ⟨_, _, hitems⟩ := Request.exists_of_mem_after hafter
        split at hitems
        · cases hitems
        · exact Or.inr (callsAny_of_mem_requestsAny items environment hitems)

theorem callsAny_of_mem_requestsEach : ∀ (items : List Expr) (environment : Environment),
    request ∈ requestsEach helpers items environment → callsAny request.function items = true
  | [], _, hrequest => nomatch hrequest
  | item :: items, environment, hrequest => by
      rw [callsAny, Bool.or_eq_true]
      rcases List.mem_append.mp hrequest with hitem | hafter
      · exact Or.inl (calls_of_mem_requests item environment hitem)
      · obtain ⟨_, _, hitems⟩ := Request.exists_of_mem_after hafter
        exact Or.inr (callsAny_of_mem_requestsEach items environment hitems)

end

theorem eval_eq_of_agreeOn
    (hagree : ∀ function, expr.calls function = true → helpers.AgreeOn function others)
    (environment : Environment) : expr.eval others environment = expr.eval helpers environment := by
  have hasks : Asks (fun _ => True) 2 (fun helpers => expr.eval helpers environment)
      (fun helpers => expr.requests helpers environment) :=
    asks_eval (fun _ => trivial) expr environment environment.within_two
  apply hasks.agrees helpers others
  intro request hrequest
  exact hagree request.function (calls_of_mem_requests expr environment hrequest) request rfl

/-- Evaluation depends on the helpers through the functions that the expression
calls only: helpers that answer these alike give the same value or the same
error, and the same stack, on every stack.  The functions are those of the
calls that the expression contains, and no others. -/
theorem evaluate_eq_of_calls (expr : Expr) :
    (∀ helpers others : Helpers,
      (∀ function, expr.calls function = true → helpers.AgreeOn function others) →
      (∀ stack,
        (expr.evaluate helpers).runOn stack = (expr.evaluate others).runOn stack) ∧
      ∀ a b, expr.compare helpers a b = expr.compare others a b) ∧
    ∀ function,
      expr.calls function = true ↔ ∃ arguments, expr.Contains (call function arguments) := by
  refine ⟨fun helpers others hagree => ⟨fun stack => ?_, fun a b => ?_⟩, fun _ =>
    calls_iff_contains⟩
  · rw [restores_evaluate expr stack, restores_evaluate expr stack,
      eval_eq_of_agreeOn hagree stack]
  · rw [compare_eq, compare_eq, eval_eq_of_agreeOn hagree]

/-- Some condition of the list takes what it yields. -/
def someLoops : Expr :=
  .quantified .any "c" (.path "a" [])
    (.conjunction
      [.negation (.call .empty [.path "c" [.output]]),
        .call .entitySetInclude [.path "c" [.input], .path "c" [.output]]])

/-- Helpers that know about lists of entities only. -/
def entityHelpers : Helpers :=
  { Helpers.none with entitySetInclude := fun a b => .ok (b.all a.contains) }

/-- Helpers that know the same about lists of entities, and take all conditions for equal. -/
def lenientHelpers : Helpers where
  entitySetInclude := fun a b => .ok (b.all a.contains)
  conditionSetInclude := fun _ _ => .ok true
  conditionContradict := fun _ => .ok false

def recycling : Condition :=
  ⟨.system, ⟨"recycle", false, false⟩, [.system], [.system], []⟩

/-- A call in the body of a quantifier, where the member is bound beside the two values. -/
theorem evaluate_eq_of_calls_someLoops :
    let stack := bindings (.conditions [recycling]) .nothing
    (∀ function, someLoops.calls function = true → entityHelpers.AgreeOn function lenientHelpers) ∧
      (someLoops.evaluate entityHelpers).runOn stack =
        (someLoops.evaluate lenientHelpers).runOn stack ∧
      (someLoops.evaluate lenientHelpers).runOn stack = (.ok (.bool true), stack) ∧
      entityHelpers.conditionContradict [recycling] ≠
        lenientHelpers.conditionContradict [recycling] := by
  intro stack
  have hagree : ∀ function, someLoops.calls function = true →
      entityHelpers.AgreeOn function lenientHelpers := by
    intro function hcalls request hfunction
    subst hfunction
    cases request with
    | entitySetInclude a b => rfl
    | conditionSetInclude a b => cases hcalls
    | conditionContradict conditions => cases hcalls
  obtain ⟨hsame, _⟩ := (evaluate_eq_of_calls someLoops).1 entityHelpers lenientHelpers hagree
  refine ⟨hagree, hsame stack, ?_, fun heq => nomatch heq⟩
  rw [restores_evaluate someLoops stack]
  rfl

end Expr

end ReqConflict
