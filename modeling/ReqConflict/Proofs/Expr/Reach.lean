import Mathlib.Data.List.Basic
import Mathlib.Logic.Relation
import ReqConflict.Proofs.Expr.Formed
import ReqConflict.Proofs.Expr.Requests
import ReqConflict.Proofs.Expr.Truth

/-!
# Where evaluation gets to

Evaluating an expression evaluates parts of it, each in an environment of its
own: the items of a conjunction up to the first that is not true, those of a
disjunction up to the first that is, and the body of a quantifier for every
member up to the one that decides, with the member bound.

Evaluation fails with the error of any part that it gets to, and wherever it
fails, it gets to a part at which the error arises: a path, a call whose
arguments have values, or a value of a kind that does not fit.
-/

namespace ReqConflict

namespace Quantifier

variable {α ε : Type} {before after items : List α} {item : α} {error : ε}
  {quantifier : Quantifier} {test : α → Except ε Bool}

/-- No item decides, so that the quantifier would go on. -/
def Passes (quantifier : Quantifier) (test : α → Except ε Bool) (items : List α) : Prop :=
  quantifier.over test items = .ok (quantifier == .all)

theorem over_cons (item : α) (items : List α) :
    quantifier.over test (item :: items) =
      (do
        if (← test item) == (quantifier == .any) then return quantifier == .any
        else quantifier.over test items) :=
  rfl

theorem passes_nil : quantifier.Passes test [] :=
  rfl

/-- A value that does not decide is what a quantifier answers if no item
decides. -/
theorem eq_of_not_deciding {value : Bool} (hvalue : (value == (quantifier == .any)) = false) :
    value = (quantifier == .all) := by
  cases quantifier with
  | any =>
      have hfalse : value = false := by simpa using hvalue
      rw [hfalse]
      rfl
  | all =>
      cases value with
      | false => cases hvalue
      | true => rfl

theorem passes_cons_iff :
    quantifier.Passes test (item :: items) ↔
      test item = .ok (quantifier == .all) ∧ quantifier.Passes test items := by
  simp only [Passes, over_cons]
  cases test item with
  | error error => simp [bind, Except.bind]
  | ok value =>
      cases quantifier with
      | any => cases value <;> simp [bind, Except.bind, pure, Except.pure]
      | all => cases value <;> simp [bind, Except.bind, pure, Except.pure]

theorem over_append (hbefore : quantifier.Passes test before) :
    quantifier.over test (before ++ after) = quantifier.over test after := by
  induction before with
  | nil => rfl
  | cons item before ih =>
      obtain ⟨hitem, hbefore⟩ := passes_cons_iff.mp hbefore
      rw [List.cons_append, over_cons, hitem, ← ih hbefore]
      cases quantifier <;> rfl

theorem over_eq_error (hbefore : quantifier.Passes test before) (hitem : test item = .error error) :
    quantifier.over test (before ++ item :: after) = .error error := by
  rw [over_append hbefore, over_cons, hitem]
  rfl

/-- A quantifier fails at the first item whose test fails, if it gets there. -/
theorem exists_of_over_eq_error (herror : quantifier.over test items = .error error) :
    ∃ before item after, items = before ++ item :: after ∧ quantifier.Passes test before ∧
      test item = .error error := by
  induction items with
  | nil => cases herror
  | cons item items ih =>
      rw [over_cons] at herror
      rcases bind_eq_error_iff.mp herror with hitem | ⟨value, hitem, hrest⟩
      · exact ⟨[], item, items, rfl, passes_nil, hitem⟩
      · cases hvalue : value == (quantifier == .any) with
        | true =>
            rw [hvalue] at hrest
            cases hrest
        | false =>
            rw [hvalue] at hrest
            obtain ⟨before, other, after, rfl, hbefore, hother⟩ := ih hrest
            rw [eq_of_not_deciding hvalue] at hitem
            have hpasses : quantifier.Passes test (item :: before) :=
              passes_cons_iff.mpr ⟨hitem, hbefore⟩
            exact ⟨item :: before, other, after, rfl, hpasses, hother⟩

end Quantifier

/-! ## Kinds that do not fit -/

/-- The error says of which kind a value is, and that this is not the kind it
should be of. -/
def ExprError.IsMisfit : ExprError → Prop
  | kind .. | incomparable .. => True
  | _ => False

/-- Nothing but the kind of a value can go wrong. -/
def FailsByKind {α : Type} (result : Except ExprError α) : Prop :=
  ∀ cause, result = .error cause → cause.IsMisfit

namespace FailsByKind

variable {α β : Type} {result : Except ExprError α}

theorem of_ok (value : α) : FailsByKind (.ok value) :=
  fun _ hcause => nomatch hcause

theorem bind {next : α → Except ExprError β} (hresult : FailsByKind result)
    (hnext : ∀ value, FailsByKind (next value)) : FailsByKind (result >>= next) := by
  intro cause hcause
  rcases bind_eq_error_iff.mp hcause with hcause | ⟨value, _, hcause⟩
  · exact hresult cause hcause
  · exact hnext value cause hcause

theorem exists_cause {error : RuleError} (hresult : FailsByKind result)
    (herror : RuleError.ofExpr result = .error error) :
    ∃ cause : ExprError, cause.IsMisfit ∧ error = .expression cause := by
  obtain ⟨cause, hcause, rfl⟩ := RuleError.ofExpr_eq_error_iff.mp herror
  exact ⟨cause, hresult cause hcause, rfl⟩

end FailsByKind

namespace Value

theorem failsByKind_truth (value : Value) (purpose : String) :
    FailsByKind (value.truth purpose) := by
  intro cause hcause
  cases value <;> cases hcause <;> trivial

theorem failsByKind_elements (value : Value) (purpose : String) :
    FailsByKind (value.elements purpose) := by
  intro cause hcause
  cases value <;> cases hcause <;> trivial

theorem failsByKind_equals (left right : Value) : FailsByKind (left.equals right) := by
  intro cause hcause
  unfold equals at hcause
  split at hcause <;> cases hcause
  trivial

end Value

namespace Expr

variable {helpers : Helpers} {environment : Environment}

theorem truthOf_eq_error {result : Except RuleError Value} {error : RuleError} {purpose : String}
    (herror : truthOf purpose result = .error error) :
    result = .error error ∨ ∃ cause : ExprError, cause.IsMisfit ∧ error = .expression cause := by
  rcases bind_eq_error_iff.mp herror with hresult | ⟨value, _, htruth⟩
  · exact Or.inl hresult
  · exact Or.inr ((value.failsByKind_truth purpose).exists_cause htruth)

theorem truthOf_error {result : Except RuleError Value} {error : RuleError} (purpose : String)
    (herror : result = .error error) : truthOf purpose result = .error error := by
  rw [herror]
  rfl

/-- Tests of truth values fail at the first item that has no value, or has one
that is no truth value. -/
theorem cases_of_over_truthOf_eq_error {α : Type} {quantifier : Quantifier} {purpose : String}
    {result : α → Except RuleError Value} {items : List α} {error : RuleError}
    (herror : quantifier.over (fun item => truthOf purpose (result item)) items = .error error) :
    (∃ before item after, items = before ++ item :: after ∧
        quantifier.Passes (fun item => truthOf purpose (result item)) before ∧
        result item = .error error) ∨
      ∃ cause : ExprError, cause.IsMisfit ∧ error = .expression cause := by
  obtain ⟨before, item, after, hitems, hbefore, hitem⟩ := Quantifier.exists_of_over_eq_error herror
  rcases truthOf_eq_error hitem with hitem | hmisfit
  · exact Or.inl ⟨before, item, after, hitems, hbefore, hitem⟩
  · exact Or.inr hmisfit

theorem evalAll_eq_over (items : List Expr) :
    evalAll helpers items environment =
      Quantifier.all.over (fun item => truthOf "and" (item.eval helpers environment)) items := by
  induction items with
  | nil => rfl
  | cons item items ih => rw [Quantifier.all_over_cons, ← ih, evalAll]

theorem evalAny_eq_over (items : List Expr) :
    evalAny helpers items environment =
      Quantifier.any.over (fun item => truthOf "or" (item.eval helpers environment)) items := by
  induction items with
  | nil => rfl
  | cons item items ih => rw [Quantifier.any_over_cons, ← ih, evalAny]

theorem evalEach_eq_mapM (items : List Expr) :
    evalEach helpers items environment = items.mapM fun item => item.eval helpers environment := by
  induction items with
  | nil => rfl
  | cons item items ih => rw [List.mapM_cons, ← ih, evalEach]

end Expr

/-- The value of a variable is the first of its name, counted outwards. -/
theorem Environment.find_eq_ok (environment : Environment) {name : String}
    (hbound : (environment.map Prod.fst).contains name = true) :
    environment.find name =
      .ok ((environment.map Prod.snd).getD ((environment.map Prod.fst).idxOf name) .nothing) := by
  induction environment with
  | nil => cases hbound
  | cons binding environment ih =>
      obtain ⟨known, value⟩ := binding
      by_cases hname : known = name
      · subst hname
        simp [Environment.find]
      · have hother : name ≠ known := Ne.symm hname
        have hfind : Environment.find ((known, value) :: environment) name =
            Environment.find environment name := by
          simp [Environment.find, List.lookup_cons, beq_eq_false_iff_ne.mpr hother]
        rw [List.map_cons, List.contains_cons, Bool.or_eq_true, beq_iff_eq] at hbound
        rw [hfind, ih (hbound.resolve_left hother), List.map_cons, List.map_cons,
          List.idxOf_cons_ne _ hname, List.getD_cons_succ]

/-- An expression, and the environment that it is evaluated in. -/
structure Site where
  expr : Expr
  environment : Environment

namespace Site

def eval (helpers : Helpers) (site : Site) : Except RuleError Value :=
  site.expr.eval helpers site.environment

/-- Evaluating one expression in its environment evaluates another one in an
environment that may bind one variable more. -/
inductive Evaluates (helpers : Helpers) : Site → Site → Prop
  | negation {body : Expr} {environment : Environment} :
      Evaluates helpers ⟨.negation body, environment⟩ ⟨body, environment⟩
  | conjunct {before after : List Expr} {item : Expr} {environment : Environment}
      (hbefore : Expr.evalAll helpers before environment = .ok true) :
      Evaluates helpers ⟨.conjunction (before ++ item :: after), environment⟩ ⟨item, environment⟩
  | disjunct {before after : List Expr} {item : Expr} {environment : Environment}
      (hbefore : Expr.evalAny helpers before environment = .ok false) :
      Evaluates helpers ⟨.disjunction (before ++ item :: after), environment⟩ ⟨item, environment⟩
  | left {isEqual : Bool} {left right : Expr} {environment : Environment} :
      Evaluates helpers ⟨.comparison isEqual left right, environment⟩ ⟨left, environment⟩
  | right {isEqual : Bool} {left right : Expr} {environment : Environment} {value : Value}
      (hleft : left.eval helpers environment = .ok value) :
      Evaluates helpers ⟨.comparison isEqual left right, environment⟩ ⟨right, environment⟩
  | argument {function : Builtin} {before after : List Expr} {item : Expr}
      {environment : Environment} {values : List Value}
      (hbefore : Expr.evalEach helpers before environment = .ok values) :
      Evaluates helpers ⟨.call function (before ++ item :: after), environment⟩
        ⟨item, environment⟩
  | list {quantifier : Quantifier} {binder : String} {list body : Expr}
      {environment : Environment} :
      Evaluates helpers ⟨.quantified quantifier binder list body, environment⟩ ⟨list, environment⟩
  | body {quantifier : Quantifier} {binder : String} {list body : Expr}
      {environment : Environment} {value member : Value} {before after : List Value}
      (hlist : list.eval helpers environment = .ok value)
      (helements : value.elements "quantifier" = .ok (before ++ member :: after))
      (hbefore : quantifier.Passes
        (fun member => Expr.truthOf "quantifier body"
          (body.eval helpers ((binder, member) :: environment))) before) :
      Evaluates helpers ⟨.quantified quantifier binder list body, environment⟩
        ⟨body, (binder, member) :: environment⟩

/-- Evaluating the first expression gets to the second one. -/
def Reaches (helpers : Helpers) : Site → Site → Prop :=
  Relation.ReflTransGen (Evaluates helpers)

variable {helpers : Helpers} {start site next : Site} {error : RuleError}

theorem eval_mk (expr : Expr) (environment : Environment) :
    eval helpers ⟨expr, environment⟩ = expr.eval helpers environment :=
  rfl

theorem Evaluates.eval_eq_error (hnext : Evaluates helpers site next)
    (herror : next.eval helpers = .error error) : site.eval helpers = .error error := by
  cases hnext with
  | negation =>
      rw [eval_mk] at herror ⊢
      rw [Expr.eval_negation, herror]
      rfl
  | conjunct hbefore =>
      rw [eval_mk] at herror ⊢
      rw [Expr.evalAll_eq_over] at hbefore
      have hitem := Expr.truthOf_error "and" herror
      rw [Expr.eval_conjunction, Expr.evalAll_eq_over, Quantifier.over_eq_error hbefore hitem]
      rfl
  | disjunct hbefore =>
      rw [eval_mk] at herror ⊢
      rw [Expr.evalAny_eq_over] at hbefore
      have hitem := Expr.truthOf_error "or" herror
      rw [Expr.eval_disjunction, Expr.evalAny_eq_over, Quantifier.over_eq_error hbefore hitem]
      rfl
  | left =>
      rw [eval_mk] at herror ⊢
      rw [Expr.eval_comparison, herror]
      rfl
  | right hleft =>
      rw [eval_mk] at herror ⊢
      rw [Expr.eval_comparison, hleft, herror]
      rfl
  | argument hbefore =>
      rw [eval_mk] at herror ⊢
      rw [Expr.evalEach_eq_mapM] at hbefore
      rw [Expr.eval_call, Expr.evalEach_eq_mapM, mapM_eq_error hbefore herror]
      rfl
  | list =>
      rw [eval_mk] at herror ⊢
      rw [Expr.eval_quantified, herror]
      rfl
  | body hlist helements hbefore =>
      rw [eval_mk] at herror ⊢
      have hmember := Expr.truthOf_error "quantifier body" herror
      rw [Expr.eval_quantified, hlist]
      simp only [bind, Except.bind, helements, RuleError.ofExpr,
        Quantifier.over_eq_error hbefore hmember]

/-- Evaluation fails as soon as it gets to a part that fails. -/
theorem Reaches.eval_eq_error (hreaches : Reaches helpers start site)
    (herror : site.eval helpers = .error error) : start.eval helpers = .error error := by
  induction hreaches using Relation.ReflTransGen.head_induction_on with
  | refl => exact herror
  | head hnext _ ih => exact hnext.eval_eq_error ih

/-- The expression is well formed where the variables of the environment are
bound. -/
def IsFormed (site : Site) : Prop :=
  site.expr.isFormed (site.environment.map Prod.fst) = true

/-- Parts stay well formed, as every quantifier binds for its body what it
names there. -/
theorem Evaluates.isFormed (hnext : Evaluates helpers site next) (hsite : site.IsFormed) :
    next.IsFormed := by
  have hitem : ∀ {scope : List String} {before after : List Expr} {item : Expr},
      Expr.areFormed scope (before ++ item :: after) = true → item.isFormed scope = true := by
    intro scope before after item hitems
    have hmem : item ∈ before ++ item :: after :=
      List.mem_append_right before List.mem_cons_self
    exact Expr.areFormed_iff.mp hitems item hmem
  cases hnext with
  | negation => exact hsite
  | conjunct _ | disjunct _ | argument _ => exact hitem (Bool.and_eq_true_iff.mp hsite).2
  | left | list => exact (Bool.and_eq_true_iff.mp hsite).1
  -- the environment of the body has the binder in front, as the scope of the body has
  | right _ | body _ _ _ => exact (Bool.and_eq_true_iff.mp hsite).2

theorem Reaches.isFormed (hreaches : Reaches helpers start site) (hstart : start.IsFormed) :
    site.IsFormed := by
  induction hreaches with
  | refl => exact hstart
  | tail _ hnext ih => exact hnext.isFormed ih

theorem isFormed_of_read {text : String} {comparison : Expr}
    (hread : Expr.read text = .ok comparison) (a b : Value) :
    IsFormed ⟨comparison, Expr.bindings a b⟩ := by
  have hscope : ∀ name, ((Expr.bindings a b).map Prod.fst).contains name =
      Expr.comparisonVariables.contains name := by
    intro name
    simp [Expr.bindings, Expr.comparisonVariables, Bool.or_comm]
  rw [IsFormed, Expr.isFormed_congr comparison hscope]
  exact Expr.isFormed_of_read hread

/-! ## Where errors arise -/

/-- What can go wrong where an expression is evaluated, and not in a part of
it: a path reaches nothing, a call with all of its arguments has no answer, or
a value is of a kind that does not fit. -/
inductive Raises (helpers : Helpers) : Site → RuleError → Prop
  | path {root : String} {wanted : List Attribute} {environment : Environment} {cause : ExprError}
      (hpath : (do wanted.foldlM Value.reach (← environment.find root)) = .error cause) :
      Raises helpers ⟨.path root wanted, environment⟩ (.expression cause)
  | call {function : Builtin} {arguments : List Expr} {environment : Environment}
      {values : List Value} {error : RuleError}
      (hvalues : Expr.evalEach helpers arguments environment = .ok values)
      (hcall : function.apply helpers values = .error error) :
      Raises helpers ⟨.call function arguments, environment⟩ error
  | misfit {site : Site} {cause : ExprError} (hmisfit : cause.IsMisfit) :
      Raises helpers site (.expression cause)

/-- An error arises where the expression is evaluated, or in a part that
evaluation gets to next. -/
theorem raises_or_exists_of_error (herror : site.eval helpers = .error error) :
    Raises helpers site error ∨
      ∃ next, Evaluates helpers site next ∧ next.eval helpers = .error error := by
  obtain ⟨expr, environment⟩ := site
  rw [eval_mk] at herror
  cases expr with
  | bool value => cases herror
  | text value => cases herror
  | path root wanted =>
      obtain ⟨cause, hpath, rfl⟩ := RuleError.ofExpr_eq_error_iff.mp herror
      exact Or.inl (.path hpath)
  | negation body =>
      rcases bind_eq_error_iff.mp herror with htruth | ⟨_, _, hdone⟩
      · rcases Expr.truthOf_eq_error htruth with hbody | ⟨cause, hmisfit, rfl⟩
        · exact Or.inr ⟨_, .negation, hbody⟩
        · exact Or.inl (.misfit hmisfit)
      · cases hdone
  | conjunction items =>
      rw [Expr.eval_conjunction, map_eq_error_iff, Expr.evalAll_eq_over] at herror
      rcases Expr.cases_of_over_truthOf_eq_error herror with
        ⟨before, item, after, rfl, hbefore, hitem⟩ | ⟨cause, hmisfit, rfl⟩
      · exact Or.inr ⟨_, .conjunct ((Expr.evalAll_eq_over before).trans hbefore), hitem⟩
      · exact Or.inl (.misfit hmisfit)
  | disjunction items =>
      rw [Expr.eval_disjunction, map_eq_error_iff, Expr.evalAny_eq_over] at herror
      rcases Expr.cases_of_over_truthOf_eq_error herror with
        ⟨before, item, after, rfl, hbefore, hitem⟩ | ⟨cause, hmisfit, rfl⟩
      · exact Or.inr ⟨_, .disjunct ((Expr.evalAny_eq_over before).trans hbefore), hitem⟩
      · exact Or.inl (.misfit hmisfit)
  | comparison isEqual left right =>
      rcases bind_eq_error_iff.mp herror with hleft | ⟨a, hleft, herror⟩
      · exact Or.inr ⟨_, .left, hleft⟩
      rcases bind_eq_error_iff.mp herror with hright | ⟨b, _, herror⟩
      · exact Or.inr ⟨_, .right hleft, hright⟩
      rcases bind_eq_error_iff.mp herror with hequals | ⟨_, _, hdone⟩
      · obtain ⟨cause, hmisfit, rfl⟩ := (a.failsByKind_equals b).exists_cause hequals
        exact Or.inl (.misfit hmisfit)
      · cases hdone
  | call function arguments =>
      rcases bind_eq_error_iff.mp herror with harguments | ⟨values, hvalues, herror⟩
      · rw [Expr.evalEach_eq_mapM] at harguments
        obtain ⟨before, item, after, values, rfl, hbefore, hitem⟩ :=
          exists_of_mapM_eq_error harguments
        rw [← Expr.evalEach_eq_mapM] at hbefore
        exact Or.inr ⟨_, .argument hbefore, hitem⟩
      rcases bind_eq_error_iff.mp herror with hcall | ⟨_, _, hdone⟩
      · exact Or.inl (.call hvalues hcall)
      · cases hdone
  | quantified quantifier binder list body =>
      rcases bind_eq_error_iff.mp herror with hlist | ⟨value, hlist, herror⟩
      · exact Or.inr ⟨_, .list, hlist⟩
      rcases bind_eq_error_iff.mp herror with helements | ⟨members, helements, herror⟩
      · obtain ⟨cause, hmisfit, rfl⟩ :=
          (value.failsByKind_elements "quantifier").exists_cause helements
        exact Or.inl (.misfit hmisfit)
      rw [RuleError.ofExpr_eq_ok_iff] at helements
      rcases bind_eq_error_iff.mp herror with hover | ⟨_, _, hdone⟩
      · rcases Expr.cases_of_over_truthOf_eq_error hover with
          ⟨before, member, after, rfl, hbefore, hbody⟩ | ⟨cause, hmisfit, rfl⟩
        · exact Or.inr ⟨_, .body hlist helements hbefore, hbody⟩
        · exact Or.inl (.misfit hmisfit)
      · cases hdone

theorem Evaluates.sizeOf_lt (hnext : Evaluates helpers site next) :
    sizeOf next.expr < sizeOf site.expr := by
  have hitem : ∀ (before after : List Expr) (item : Expr),
      sizeOf item < sizeOf (before ++ item :: after) := by
    intro before after item
    apply List.sizeOf_lt_of_mem
    exact List.mem_append_right before List.mem_cons_self
  cases hnext with
  | @conjunct before after item _ _ =>
      have hlt := hitem before after item
      simp only [Expr.conjunction.sizeOf_spec]
      omega
  | @disjunct before after item _ _ =>
      have hlt := hitem before after item
      simp only [Expr.disjunction.sizeOf_spec]
      omega
  | @argument _ before after item _ _ _ =>
      have hlt := hitem before after item
      simp only [Expr.call.sizeOf_spec]
      omega
  | negation => simp
  | left | right _ =>
      simp only [Expr.comparison.sizeOf_spec]
      omega
  | list | body _ _ _ =>
      simp only [Expr.quantified.sizeOf_spec]
      omega

/-- Wherever evaluation fails, it gets to where the error arises. -/
theorem exists_raises_of_error {site : Site} (herror : site.eval helpers = .error error) :
    ∃ origin, Reaches helpers site origin ∧ Raises helpers origin error := by
  -- not an induction on the expression, as the environment changes on the way
  rcases raises_or_exists_of_error herror with hraises | ⟨next, hnext, hfails⟩
  · exact ⟨site, .refl, hraises⟩
  · have hsmaller := hnext.sizeOf_lt
    obtain ⟨origin, hreaches, hraises⟩ := exists_raises_of_error hfails
    exact ⟨origin, .head hnext hreaches, hraises⟩
termination_by sizeOf site.expr

variable {comparison : Expr} {a b : Value}

theorem Reaches.compare_eq_error (hreaches : Reaches helpers ⟨comparison, Expr.bindings a b⟩ site)
    (herror : site.eval helpers = .error error) : comparison.compare helpers a b = .error error := by
  rw [Expr.compare_eq]
  exact Expr.truthOf_error "comparison" (hreaches.eval_eq_error herror)

theorem exists_raises_of_compare (herror : comparison.compare helpers a b = .error error) :
    ∃ origin, Reaches helpers ⟨comparison, Expr.bindings a b⟩ origin ∧
      Raises helpers origin error := by
  rw [Expr.compare_eq] at herror
  rcases Expr.truthOf_eq_error herror with herror | ⟨cause, hmisfit, rfl⟩
  · exact exists_raises_of_error herror
  · exact ⟨_, .refl, .misfit hmisfit⟩

end Site

end ReqConflict
