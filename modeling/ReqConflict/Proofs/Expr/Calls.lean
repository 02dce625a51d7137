import ReqConflict.Proofs.Expr.Reach
import ReqConflict.Proofs.Expr.RoundTrip

/-!
# Calls with arguments that do not fit

Calls have as many arguments as their functions take once an expression has
been read, so that only the kinds of the arguments can be wrong when it is
evaluated.  Six of the functions then name the kind that they expect and the
one that they found.  The one function with a single argument of one kind,
`condition_contradict`, complains of the number of its arguments instead.
-/

namespace ReqConflict

/-- The error is about the number of arguments of a call. -/
def RuleError.IsArity (error : RuleError) : Prop :=
  ∃ function expected found, error = .expression (.arity function expected found)

namespace Value

variable {value : Value}

theorem noAttribute_of_reach {wanted : Attribute} {cause : ExprError}
    (hcause : value.reach wanted = .error cause) :
    ∃ wanted found, cause = .noAttribute wanted found := by
  unfold reach at hcause
  split at hcause <;> cases hcause
  exact ⟨_, _, rfl⟩

def isCollection : Value → Bool
  | entities _ | strings _ | modifiers _ | conditions _ => true
  | _ => false

theorem elements_of_not_isCollection (hvalue : value.isCollection = false) (purpose : String) :
    value.elements purpose = .error (.kind purpose "a list or set" value.kind) := by
  cases value <;> cases hvalue <;> rfl

theorem exists_elements (hvalue : value.isCollection = true) (purpose : String) :
    ∃ members, value.elements purpose = .ok members := by
  cases value <;> cases hvalue <;> exact ⟨_, rfl⟩

theorem failsByKind_isMember (value : Value) (members : List Value) :
    FailsByKind (value.isMember members) := by
  induction members with
  | nil => exact .of_ok false
  | cons member members ih =>
      apply (failsByKind_equals member value).bind
      intro isEqual
      cases isEqual with
      | true => exact .of_ok true
      | false => exact ih

theorem failsByKind_isSubset (members values : List Value) :
    FailsByKind (isSubset members values) := by
  induction values with
  | nil => exact .of_ok true
  | cons value values ih =>
      apply (failsByKind_isMember value members).bind
      intro isIn
      cases isIn with
      | true => exact ih
      | false => exact .of_ok false

theorem failsByKind_isDisjoint (members values : List Value) :
    FailsByKind (isDisjoint members values) := by
  induction values with
  | nil => exact .of_ok true
  | cons value values ih =>
      apply (failsByKind_isMember value members).bind
      intro isIn
      cases isIn with
      | true => exact .of_ok false
      | false => exact ih

theorem exists_entities (hkind : value.kind = "entity list") : ∃ es, value = entities es := by
  cases value <;> simp [kind] at hkind ⊢

theorem exists_conditions (hkind : value.kind = "condition list") :
    ∃ cs, value = conditions cs := by
  cases value <;> simp [kind] at hkind ⊢

theorem failsByKind_pair (a b : Value) (purpose : String)
    {next : List Value → List Value → Except ExprError Bool}
    (hnext : ∀ as bs, FailsByKind (next as bs)) :
    FailsByKind (do
      let as ← a.elements purpose
      let bs ← b.elements purpose
      next as bs) := by
  apply (a.failsByKind_elements purpose).bind
  intro as
  apply (b.failsByKind_elements purpose).bind
  intro bs
  exact hnext as bs

/-- Of two arguments, the first that is no list or set is complained of. -/
theorem elements_of_find {a b : Value} {next : List Value → List Value → Except ExprError Bool}
    (hvalue : [a, b].find? (fun value => !value.isCollection) = some value) (purpose : String) :
    (do
      let as ← a.elements purpose
      let bs ← b.elements purpose
      next as bs) = .error (.kind purpose "a list or set" value.kind) := by
  cases ha : a.isCollection with
  | false =>
      have heq : a = value := by simpa [ha] using hvalue
      rw [← heq, elements_of_not_isCollection ha]
      rfl
  | true =>
      obtain ⟨members, hmembers⟩ := exists_elements ha purpose
      have hb : b.isCollection = false ∧ b = value := by simpa [ha] using hvalue
      rw [← hb.2, hmembers, elements_of_not_isCollection hb.1]
      rfl

end Value

namespace Builtin

/-! ## Arguments of the wrong kind -/

/-- The kind that the arguments should be of, as errors name it. -/
def expected : Builtin → String
  | setEqual | subset | disjoint | empty => "a list or set"
  | entitySetInclude => "entity list"
  | conditionSetInclude | conditionContradict => "condition list"

/-- The argument is of the kind that the function expects. -/
def takes : Builtin → Value → Bool
  | setEqual, value | subset, value | disjoint, value | empty, value => value.isCollection
  | function, value => value.kind == function.expected

variable {helpers : Helpers} {function : Builtin} {values : List Value} {value a b : Value}
  {error : RuleError}

theorem conditionContradict_of_not_takes (hvalue : conditionContradict.takes value = false) :
    conditionContradict.apply helpers [value] =
      .error (.expression (.arity conditionContradict.name 1 1)) := by
  cases value <;> cases hvalue <;> rfl

/-- Of two arguments, the first that is not of the expected kind is complained
of. -/
theorem kindError_of_find {expected : String}
    (hvalue : [a, b].find? (fun value => !(value.kind == expected)) = some value) :
    function.kindError expected a b = .expression (.kind function.name expected value.kind) := by
  by_cases ha : a.kind = expected
  · have hb : ¬b.kind = expected ∧ b = value := by simpa [ha] using hvalue
    rw [kindError, if_pos ha, hb.2]
  · have heq : a = value := by simpa [ha] using hvalue
    rw [kindError, if_neg ha, heq]

theorem apply_of_kind_ne (hfunction : function = entitySetInclude ∨ function = conditionSetInclude)
    (hkind : ¬(a.kind = function.expected ∧ b.kind = function.expected)) :
    function.apply helpers [a, b] = .error (function.kindError function.expected a b) := by
  rcases hfunction with rfl | rfl
  · have hother : ∀ as bs, a = .entities as → b = .entities bs → False := by
      rintro as bs rfl rfl
      exact hkind ⟨rfl, rfl⟩
    rw [apply]
    · rfl
    · exact hother
  · have hother : ∀ as bs, a = .conditions as → b = .conditions bs → False := by
      rintro as bs rfl rfl
      exact hkind ⟨rfl, rfl⟩
    rw [apply]
    · rfl
    · exact hother

/-- Every function but one names the kind of the first argument that is not of
the kind it expects. -/
theorem apply_of_not_takes (hcount : values.length = function.arity)
    (hfunction : function ≠ conditionContradict)
    (hvalue : values.find? (fun value => !function.takes value) = some value) :
    function.apply helpers values =
      .error (.expression (.kind function.name function.expected value.kind)) := by
  cases function with
  | setEqual | subset | disjoint =>
      obtain ⟨a, b, rfl⟩ := List.length_eq_two.mp hcount
      exact congrArg RuleError.ofExpr (Value.elements_of_find hvalue _)
  | empty =>
      obtain ⟨a, rfl⟩ := List.length_eq_one_iff.mp hcount
      have ha : a.isCollection = false ∧ a = value := by simpa [takes] using hvalue
      rw [apply, ← ha.2, Value.elements_of_not_isCollection ha.1]
      rfl
  | entitySetInclude | conditionSetInclude =>
      obtain ⟨a, b, rfl⟩ := List.length_eq_two.mp hcount
      rw [apply_of_kind_ne (by simp), kindError_of_find hvalue]
      rintro ⟨ha, hb⟩
      simp [takes, ha, hb] at hvalue
  | conditionContradict => exact absurd rfl hfunction

/-- With as many arguments as a function takes, its errors are about their
kinds, or come from a helper, unless the function is `condition_contradict`. -/
theorem cases_of_apply_eq_error (hcount : values.length = function.arity)
    (herror : function.apply helpers values = .error error) :
    (∃ cause : ExprError, cause.IsMisfit ∧ error = .expression cause) ∨
      (∃ request, helpers.answer request = .error error) ∨
      ∃ value, function = conditionContradict ∧ values = [value] ∧
        conditionContradict.takes value = false := by
  cases function with
  | setEqual =>
      obtain ⟨a, b, rfl⟩ := List.length_eq_two.mp hcount
      have hboth : ∀ as bs : List Value, FailsByKind (do
          if ← Value.isSubset bs as then Value.isSubset as bs else return false) := by
        intro as bs
        apply (Value.failsByKind_isSubset bs as).bind
        intro isSubset
        cases isSubset with
        | true => exact Value.failsByKind_isSubset as bs
        | false => exact .of_ok false
      left
      exact (Value.failsByKind_pair a b _ hboth).exists_cause herror
  | subset =>
      obtain ⟨a, b, rfl⟩ := List.length_eq_two.mp hcount
      left
      have hpair := Value.failsByKind_pair a b subset.name fun as bs =>
        Value.failsByKind_isSubset bs as
      exact hpair.exists_cause herror
  | disjoint =>
      obtain ⟨a, b, rfl⟩ := List.length_eq_two.mp hcount
      left
      have hpair := Value.failsByKind_pair a b disjoint.name fun as bs =>
        Value.failsByKind_isDisjoint bs as
      exact hpair.exists_cause herror
  | empty =>
      obtain ⟨a, rfl⟩ := List.length_eq_one_iff.mp hcount
      left
      have hempty := (a.failsByKind_elements empty.name).bind fun as => .of_ok as.isEmpty
      exact hempty.exists_cause herror
  | entitySetInclude =>
      obtain ⟨a, b, rfl⟩ := List.length_eq_two.mp hcount
      by_cases hkind : a.kind = "entity list" ∧ b.kind = "entity list"
      · obtain ⟨as, rfl⟩ := Value.exists_entities hkind.1
        obtain ⟨bs, rfl⟩ := Value.exists_entities hkind.2
        right; left
        exact ⟨.entitySetInclude as bs, herror⟩
      · rw [apply_of_kind_ne (by simp) hkind] at herror
        cases herror
        left
        refine ⟨_, ?_, rfl⟩
        trivial
  | conditionSetInclude =>
      obtain ⟨a, b, rfl⟩ := List.length_eq_two.mp hcount
      by_cases hkind : a.kind = "condition list" ∧ b.kind = "condition list"
      · obtain ⟨as, rfl⟩ := Value.exists_conditions hkind.1
        obtain ⟨bs, rfl⟩ := Value.exists_conditions hkind.2
        right; left
        exact ⟨.conditionSetInclude as bs, herror⟩
      · rw [apply_of_kind_ne (by simp) hkind] at herror
        cases herror
        left
        refine ⟨_, ?_, rfl⟩
        trivial
  | conditionContradict =>
      obtain ⟨a, rfl⟩ := List.length_eq_one_iff.mp hcount
      cases ha : conditionContradict.takes a with
      | false =>
          right; right
          exact ⟨a, rfl, rfl, ha⟩
      | true =>
          have hkind : a.kind = "condition list" := beq_iff_eq.mp ha
          obtain ⟨as, rfl⟩ := Value.exists_conditions hkind
          right; left
          exact ⟨.conditionContradict as, herror⟩

end Builtin

namespace Expr

variable {helpers : Helpers} {comparison : Expr} {a b : Value} {function : Builtin}
  {values : List Value} {error : RuleError} {text : String}

/-! ## The calls of a comparison -/

/-- Comparing the two values gets to a call of the function on these
arguments. -/
def GetsToCall (helpers : Helpers) (comparison : Expr) (a b : Value) (function : Builtin)
    (values : List Value) : Prop :=
  ∃ arguments environment,
    Site.Reaches helpers ⟨comparison, bindings a b⟩ ⟨call function arguments, environment⟩ ∧
      evalEach helpers arguments environment = .ok values

theorem length_of_evalEach {items : List Expr} {environment : Environment}
    (hvalues : evalEach helpers items environment = .ok values) :
    values.length = items.length := by
  induction items generalizing values with
  | nil =>
      cases hvalues
      rfl
  | cons item items ih =>
      obtain ⟨value, _, hrest⟩ := bind_eq_ok_iff.mp hvalues
      obtain ⟨others, hothers, heq⟩ := bind_eq_ok_iff.mp hrest
      cases heq
      rw [List.length_cons, List.length_cons, ih hothers]

theorem length_of_reaches {arguments : List Expr} {environment : Environment}
    (hread : Expr.read text = .ok comparison)
    (hreaches : Site.Reaches helpers ⟨comparison, bindings a b⟩
      ⟨call function arguments, environment⟩) :
    arguments.length = function.arity := by
  have hstart : Site.IsFormed ⟨comparison, bindings a b⟩ := Site.isFormed_of_read hread a b
  have hformed : Site.IsFormed ⟨call function arguments, environment⟩ := hreaches.isFormed hstart
  rw [Site.IsFormed, isFormed, Bool.and_eq_true] at hformed
  exact beq_iff_eq.mp hformed.1

theorem GetsToCall.length_eq (hcalls : GetsToCall helpers comparison a b function values)
    (hread : Expr.read text = .ok comparison) : values.length = function.arity := by
  obtain ⟨arguments, environment, hreaches, hvalues⟩ := hcalls
  rw [length_of_evalEach hvalues, length_of_reaches hread hreaches]

theorem GetsToCall.compare_eq_error (hcalls : GetsToCall helpers comparison a b function values)
    (herror : function.apply helpers values = .error error) :
    comparison.compare helpers a b = .error error := by
  obtain ⟨arguments, environment, hreaches, hvalues⟩ := hcalls
  apply hreaches.compare_eq_error
  rw [Site.eval_mk, eval_call, hvalues]
  simp only [bind, Except.bind, herror]

/-- What is wrong with a comparison of a text that was read is that an
attribute is missing or a kind does not fit, unless a helper fails, or
`condition_contradict` is called on something else than a list of
conditions. -/
theorem cases_of_compare_eq_error (hread : Expr.read text = .ok comparison)
    (herror : comparison.compare helpers a b = .error error) :
    (∃ cause : ExprError, error = .expression cause ∧
        (cause.IsMisfit ∨ ∃ wanted found, cause = .noAttribute wanted found)) ∨
      (∃ request, helpers.answer request = .error error) ∨
      ∃ value, GetsToCall helpers comparison a b .conditionContradict [value] ∧
        Builtin.conditionContradict.takes value = false := by
  obtain ⟨origin, hreaches, hraises⟩ := Site.exists_raises_of_compare herror
  have hformed : origin.IsFormed := hreaches.isFormed (Site.isFormed_of_read hread a b)
  cases hraises with
  | @path root wanted environment cause hpath =>
      rw [environment.find_eq_ok hformed] at hpath
      obtain ⟨missing, _, value, hreach⟩ := exists_of_foldlM_eq_error hpath
      left
      exact ⟨_, rfl, Or.inr (Value.noAttribute_of_reach hreach)⟩
  | @call function arguments environment values error hvalues hcall =>
      have hcount : values.length = function.arity := by
        rw [length_of_evalEach hvalues, length_of_reaches hread hreaches]
      rcases Builtin.cases_of_apply_eq_error hcount hcall with
        ⟨cause, hmisfit, rfl⟩ | hrequest | ⟨value, rfl, rfl, hvalue⟩
      · left
        exact ⟨cause, rfl, Or.inl hmisfit⟩
      · right; left
        exact hrequest
      · right; right
        exact ⟨value, ⟨arguments, environment, hreaches, hvalues⟩, hvalue⟩
  | misfit hmisfit =>
      left
      exact ⟨_, rfl, Or.inl hmisfit⟩

theorem compare_eq_arity_error {value : Value}
    (hcalls : GetsToCall helpers comparison a b .conditionContradict [value])
    (hkind : value.kind ≠ "condition list") :
    comparison.compare helpers a b = .error (.expression (.arity "condition_contradict" 1 1)) := by
  have htakes : Builtin.conditionContradict.takes value = false := beq_eq_false_iff_ne.mpr hkind
  exact hcalls.compare_eq_error (Builtin.conditionContradict_of_not_takes htakes)

/-- A comparison of a text that was read complains of a number of arguments
exactly if it gets to a call of `condition_contradict` on something else than a
list of conditions.  A call of another function has as many arguments as the
function takes, and the first that is not of the expected kind is complained of
with its kind. -/
theorem arity_iff_and_kind_of_calls (hread : Expr.read text = .ok comparison)
    (hhelpers : ∀ request error, helpers.answer request = .error error → ¬error.IsArity)
    (a b : Value) :
    (∀ error, (comparison.compare helpers a b = .error error ∧ error.IsArity) ↔
      error = .expression (.arity "condition_contradict" 1 1) ∧
        ∃ value, GetsToCall helpers comparison a b .conditionContradict [value] ∧
          value.kind ≠ "condition list") ∧
      ∀ function values, GetsToCall helpers comparison a b function values →
        values.length = function.arity ∧
          ∀ value, function ≠ .conditionContradict →
            values.find? (fun value => !function.takes value) = some value →
              comparison.compare helpers a b =
                .error (.expression (.kind function.name function.expected value.kind)) := by
  constructor
  · intro error
    constructor
    · rintro ⟨herror, function, expected, found, rfl⟩
      rcases cases_of_compare_eq_error hread herror with
        ⟨cause, hcause, hmisfit | ⟨wanted, kind, rfl⟩⟩ | ⟨request, hrequest⟩ |
          ⟨value, hcalls, hvalue⟩
      · cases hcause
        exact hmisfit.elim
      · cases hcause
      · exact absurd ⟨function, expected, found, rfl⟩ (hhelpers request _ hrequest)
      · have hkind : value.kind ≠ "condition list" := beq_eq_false_iff_ne.mp hvalue
        rw [compare_eq_arity_error hcalls hkind] at herror
        cases herror
        exact ⟨rfl, value, hcalls, hkind⟩
    · rintro ⟨rfl, value, hcalls, hkind⟩
      exact ⟨compare_eq_arity_error hcalls hkind, _, _, _, rfl⟩
  · intro function values hcalls
    have hcount : values.length = function.arity := hcalls.length_eq hread
    refine ⟨hcount, ?_⟩
    intro value hfunction hvalue
    apply hcalls.compare_eq_error
    exact Builtin.apply_of_not_takes hcount hfunction hvalue

theorem not_isArity_of_none (request : Request) (error : RuleError)
    (herror : Helpers.none.answer request = .error error) : ¬error.IsArity := by
  rintro ⟨function, expected, found, rfl⟩
  cases request <;> cases herror

/-- Asks whether some member of the first value includes the second value, as
if both were lists of entities. -/
def someIncludes : Expr :=
  quantified .any "x" (path "a" []) (call .entitySetInclude [path "x" [], path "b" []])

/-- A member of a list of entities is no list of entities. -/
theorem arity_iff_and_kind_of_calls_someIncludes :
    someIncludes.toText = "any(x in a, entity_set_include(x, b))" ∧
      Expr.read someIncludes.toText = .ok someIncludes ∧
      (∀ request error, Helpers.none.answer request = .error error → ¬error.IsArity) ∧
      someIncludes.compare .none (.entities [default]) (.entities []) =
        .error (.expression (.kind "entity_set_include" "entity list" "entity")) := by
  have hread : Expr.read someIncludes.toText = .ok someIncludes :=
    read_of_isSpelled (by decide) (by decide)
  have hmember : (Value.entities [default]).elements "quantifier" =
      .ok ([] ++ .entity default :: []) := rfl
  have hcalls : GetsToCall .none someIncludes (.entities [default]) (.entities [])
      .entitySetInclude [.entity default, .entities []] :=
    ⟨_, _, .single (.body rfl hmember rfl), rfl⟩
  obtain ⟨_, hkinds⟩ := arity_iff_and_kind_of_calls hread not_isArity_of_none
    (.entities [default]) (.entities [])
  obtain ⟨_, hmisfit⟩ := hkinds _ _ hcalls
  refine ⟨by decide, hread, not_isArity_of_none, ?_⟩
  exact hmisfit (.entity default) (by decide) (by decide)

/-- Not every call with the right number of arguments is answered without a
complaint about it: `condition_contradict` is not, where its only argument is a
truth value. -/
theorem not_forall_not_isArity :
    ¬ ∀ text comparison, Expr.read text = .ok comparison → ∀ helpers : Helpers,
      (∀ request error, helpers.answer request = .error error → ¬error.IsArity) →
        ∀ a b error, comparison.compare helpers a b = .error error → ¬error.IsArity := by
  intro hnever
  let contradicts := call .conditionContradict [path "a" []]
  have hread : Expr.read contradicts.toText = .ok contradicts :=
    read_of_isSpelled (by decide) (by decide)
  exact hnever _ _ hread .none not_isArity_of_none (.bool true) .nothing _ rfl ⟨_, _, _, rfl⟩

end Expr

end ReqConflict
