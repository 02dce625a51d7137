import ReqConflict.Expr.Eval

/-!
# Requests to helpers

A computation with helpers is followed by the list of the requests that it
makes of them.  Its result depends on the helpers through the answers to these
requests only, and it fails for a reason of its own or because one of them
fails.  This is kept by sequencing and by quantifiers, so that it is shown for
an evaluator one construct at a time.

Requests have a rank, which is the rank of the lists that they are about: a
list of conditions contains lists of entities, which contain no further lists
that a helper takes.
-/

namespace ReqConflict

theorem RuleError.within_eq_error_iff {α : Type} {name : String} {result : Except RuleError α}
    {error : RuleError} :
    within name result = .error error ↔
      ∃ cause, result = .error cause ∧ error = .inRule name cause := by
  cases result <;> simp [within, eq_comm (a := error)]

/-- What a helper is asked. -/
inductive Request where
  | entitySetInclude (a b : List Entity)
  | conditionSetInclude (a b : List Condition)
  | conditionContradict (conditions : List Condition)
deriving DecidableEq, Repr

namespace Request

def rank : Request → Nat
  | entitySetInclude .. => 1
  | conditionSetInclude .. | conditionContradict .. => 2

theorem rank_pos (request : Request) : 0 < request.rank := by
  cases request <;> simp [rank]

theorem rank_le_two (request : Request) : request.rank ≤ 2 := by
  cases request <;> simp [rank]

variable {α β : Type}

/-- The requests that are made after a result.  None are made after an
error. -/
def after (result : Except RuleError α) (next : α → List Request) : List Request :=
  match result with
  | .ok value => next value
  | .error _ => []

@[simp] theorem after_ok (value : α) (next : α → List Request) :
    after (.ok value) next = next value :=
  rfl

@[simp] theorem after_error (error : RuleError) (next : α → List Request) :
    after (.error error) next = [] :=
  rfl

end Request

def Helpers.answer (helpers : Helpers) : Request → Except RuleError Bool
  | .entitySetInclude a b => helpers.entitySetInclude a b
  | .conditionSetInclude a b => helpers.conditionSetInclude a b
  | .conditionContradict conditions => helpers.conditionContradict conditions

/-- The requests of the tests that a quantifier makes, up to the deciding
one. -/
def Quantifier.requests {α : Type} (quantifier : Quantifier) (test : α → Except RuleError Bool)
    (requests : α → List Request) : List α → List Request
  | [] => []
  | item :: items =>
      requests item ++ Request.after (test item) fun truth =>
        if truth == (quantifier == .any) then [] else quantifier.requests test requests items

/-- A computation makes these requests, none above a rank.  They are all that
its result depends on.  The root of an error is one of its own or that of an
error that a request is answered with. -/
structure Asks {α : Type} (own : RuleError → Prop) (bound : Nat)
    (run : Helpers → Except RuleError α) (requests : Helpers → List Request) : Prop where
  bounded : ∀ helpers, ∀ request ∈ requests helpers, request.rank ≤ bound
  agrees : ∀ helpers others,
    (∀ request ∈ requests helpers, others.answer request = helpers.answer request) →
      run others = run helpers
  fails : ∀ helpers error, run helpers = .error error →
    own error.root ∨ ∃ request ∈ requests helpers, ∃ cause,
      helpers.answer request = .error cause ∧ error.root = cause.root

namespace Asks

open Request

variable {α β : Type} {own : RuleError → Prop} {bound : Nat}
  {run : Helpers → Except RuleError α} {requests : Helpers → List Request}

theorem of_result {result : Except RuleError α}
    (hresult : ∀ error, result = .error error → own error.root) :
    Asks own bound (fun _ => result) (fun _ => []) where
  bounded := by simp
  agrees := by simp
  fails := fun _ error herror => Or.inl (hresult error herror)

theorem of_ok (value : α) : Asks own bound (fun _ => .ok value) (fun _ => []) :=
  of_result fun _ herror => nomatch herror

theorem answer (request : Request) (hrank : request.rank ≤ bound) :
    Asks own bound (fun helpers => helpers.answer request) (fun _ => [request]) where
  bounded := by simp [hrank]
  agrees := fun _ _ hagree => hagree request (List.mem_singleton_self request)
  fails := fun _ error herror =>
    Or.inr ⟨request, List.mem_singleton_self request, error, herror, rfl⟩

theorem mono {larger : Nat} (hrun : Asks own bound run requests) (hle : bound ≤ larger) :
    Asks own larger run requests where
  bounded := fun helpers request hmem => Nat.le_trans (hrun.bounded helpers request hmem) hle
  agrees := hrun.agrees
  fails := hrun.fails

/-- The second part counts only for the values that the first part has. -/
theorem bind {next : α → Helpers → Except RuleError β} {more : α → Helpers → List Request}
    (hrun : Asks own bound run requests)
    (hnext : ∀ value helpers, run helpers = .ok value → Asks own bound (next value) (more value)) :
    Asks own bound (fun helpers => run helpers >>= fun value => next value helpers)
      (fun helpers => requests helpers ++ after (run helpers) fun value => more value helpers) where
  bounded := by
    intro helpers request hmem
    rcases List.mem_append.mp hmem with hmem | hmem
    · exact hrun.bounded helpers request hmem
    · cases hresult : run helpers with
      | error error => simp [hresult] at hmem
      | ok value =>
          rw [hresult, after_ok] at hmem
          exact (hnext value helpers hresult).bounded helpers request hmem
  agrees := by
    intro helpers others hagree
    have hsame : run others = run helpers :=
      hrun.agrees helpers others fun request hmem => hagree request (List.mem_append_left _ hmem)
    cases hresult : run helpers with
    | error error => simp only [hsame, hresult, Except.bind, Bind.bind]
    | ok value =>
        have hmore : next value others = next value helpers := by
          apply (hnext value helpers hresult).agrees
          intro request hmem
          apply hagree
          rw [hresult, after_ok]
          exact List.mem_append_right _ hmem
        simp only [hsame, hresult, Except.bind, Bind.bind, hmore]
  fails := by
    intro helpers error herror
    cases hresult : run helpers with
    | error cause =>
        have heq : cause = error := by simpa [hresult, Except.bind, Bind.bind] using herror
        rw [heq] at hresult
        refine (hrun.fails helpers error hresult).imp_right ?_
        rintro ⟨request, hmem, hanswer⟩
        exact ⟨request, List.mem_append_left _ hmem, hanswer⟩
    | ok value =>
        have hlast : next value helpers = .error error := by
          simpa [hresult, Except.bind, Bind.bind] using herror
        refine ((hnext value helpers hresult).fails helpers error hlast).imp_right ?_
        rintro ⟨request, hmem, hanswer⟩
        exact ⟨request, List.mem_append_right _ hmem, hanswer⟩

/-- A first part without helpers asks for nothing. -/
theorem result_bind {result : Except RuleError β} {next : β → Helpers → Except RuleError α}
    {more : β → Helpers → List Request}
    (hresult : ∀ error, result = .error error → own error.root)
    (hnext : ∀ value, result = .ok value → Asks own bound (next value) (more value)) :
    Asks own bound (fun helpers => result >>= fun value => next value helpers)
      (fun helpers => after result fun value => more value helpers) :=
  (of_result hresult).bind fun value _ hvalue => hnext value hvalue

/-- What is made of a value without helpers asks for nothing more. -/
theorem bind_result {next : α → Except RuleError β} (hrun : Asks own bound run requests)
    (hnext : ∀ value error, next value = .error error → own error.root) :
    Asks own bound (fun helpers => run helpers >>= next) requests := by
  have hbind : Asks own bound (fun helpers => run helpers >>= next)
      (fun helpers => requests helpers ++ after (run helpers) fun _ => []) :=
    hrun.bind fun value _ _ => of_result (hnext value)
  have hnone : ∀ helpers, (after (run helpers) fun _ => []) = [] := by
    intro helpers
    cases run helpers <;> rfl
  simpa only [hnone, List.append_nil] using hbind

theorem map (f : α → β) (hrun : Asks own bound run requests) :
    Asks own bound (fun helpers => do return f (← run helpers)) requests :=
  hrun.bind_result fun _ _ herror => nomatch herror

theorem within (name : String) (hrun : Asks own bound run requests) :
    Asks own bound (fun helpers => RuleError.within name (run helpers)) requests where
  bounded := hrun.bounded
  agrees := fun helpers others hagree =>
    congrArg (RuleError.within name) (hrun.agrees helpers others hagree)
  fails := by
    intro helpers error herror
    obtain ⟨cause, hresult, rfl⟩ := RuleError.within_eq_error_iff.mp herror
    exact hrun.fails helpers cause hresult

/-- Of two branches the one is taken that a truth value says. -/
theorem ite {first second : Helpers → Except RuleError α}
    {requests₁ requests₂ : Helpers → List Request} (truth : Bool)
    (hfirst : Asks own bound first requests₁) (hsecond : Asks own bound second requests₂) :
    Asks own bound (fun helpers => if truth then first helpers else second helpers)
      (fun helpers => if truth then requests₁ helpers else requests₂ helpers) := by
  cases truth with
  | false => simpa using hsecond
  | true => simpa using hfirst

theorem quantified {ι : Type} {test : ι → Helpers → Except RuleError Bool}
    {requests : ι → Helpers → List Request} (quantifier : Quantifier) (items : List ι)
    (htest : ∀ item ∈ items, Asks own bound (test item) (requests item)) :
    Asks own bound (fun helpers => quantifier.over (fun item => test item helpers) items)
      (fun helpers =>
        quantifier.requests (fun item => test item helpers) (fun item => requests item helpers)
          items) := by
  induction items with
  | nil => exact of_ok _
  | cons item items ih =>
      have hitem := htest item List.mem_cons_self
      have hitems := ih fun other hother => htest other (List.mem_cons_of_mem item hother)
      exact hitem.bind fun truth _ _ => ite _ (of_ok _) hitems

end Asks

end ReqConflict
