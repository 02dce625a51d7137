import ReqConflict.Proofs.Decides
import ReqConflict.Proofs.Expr.Stack

/-!
# Expressions that decide a statement

One lemma for each form of expression that has a truth value: what it decides,
given what its parts decide.
-/

namespace ReqConflict.Expr

variable {helpers : Helpers} {environment : Environment} {result : Except RuleError Value}
  {answer : Except RuleError Bool} {p q : Prop} {left right item body : Expr}
  {items arguments : List Expr}

theorem eval_path (root : String) (wanted : List Attribute) :
    (path root wanted).eval helpers environment =
      RuleError.ofExpr (do wanted.foldlM Value.reach (← environment.find root)) :=
  rfl

theorem eval_negation (body : Expr) :
    (negation body).eval helpers environment =
      (do return .bool !(← truthOf "not" (body.eval helpers environment))) :=
  rfl

theorem eval_conjunction (items : List Expr) :
    (conjunction items).eval helpers environment = .bool <$> evalAll helpers items environment :=
  rfl

theorem eval_disjunction (items : List Expr) :
    (disjunction items).eval helpers environment = .bool <$> evalAny helpers items environment :=
  rfl

theorem eval_comparison (isEqual : Bool) (left right : Expr) :
    (comparison isEqual left right).eval helpers environment =
      (do
        let a ← left.eval helpers environment
        let b ← right.eval helpers environment
        return .bool ((← RuleError.ofExpr (a.equals b)) == isEqual)) :=
  rfl

theorem eval_call (function : Builtin) (arguments : List Expr) :
    (call function arguments).eval helpers environment =
      (do
        let values ← evalEach helpers arguments environment
        return .bool (← function.apply helpers values)) :=
  rfl

theorem eval_quantified (quantifier : Quantifier) (binder : String) (list body : Expr) :
    (quantified quantifier binder list body).eval helpers environment =
      (do
        let members ← RuleError.ofExpr
          ((← list.eval helpers environment).elements "quantifier")
        let test := fun member =>
          truthOf "quantifier body" (body.eval helpers ((binder, member) :: environment))
        return .bool (← quantifier.over test members)) :=
  rfl

theorem evalAll_nil : evalAll helpers [] environment = .ok true :=
  rfl

theorem evalAll_cons (item : Expr) (items : List Expr) :
    evalAll helpers (item :: items) environment =
      (do
        if ← truthOf "and" (item.eval helpers environment) then
          evalAll helpers items environment
        else return false) :=
  rfl

theorem evalAny_nil : evalAny helpers [] environment = .ok false :=
  rfl

theorem evalAny_cons (item : Expr) (items : List Expr) :
    evalAny helpers (item :: items) environment =
      (do
        if ← truthOf "or" (item.eval helpers environment) then return true
        else evalAny helpers items environment) :=
  rfl

theorem evalEach_nil : evalEach helpers [] environment = .ok [] :=
  rfl

theorem evalEach_cons (item : Expr) (items : List Expr) :
    evalEach helpers (item :: items) environment =
      (do
        let value ← item.eval helpers environment
        return value :: (← evalEach helpers items environment)) :=
  rfl

theorem eval_variable {root : String} {value : Value}
    (hroot : environment.find root = .ok value) :
    (path root []).eval helpers environment = .ok value := by
  rw [eval_path, hroot]
  rfl

theorem eval_attribute {root : String} {value reached : Value} {wanted : Attribute}
    (hroot : environment.find root = .ok value) (hreach : value.reach wanted = .ok reached) :
    (path root [wanted]).eval helpers environment = .ok reached := by
  have hfold : [wanted].foldlM Value.reach value = .ok reached := by
    simp [hreach]
  rw [eval_path, hroot]
  simp only [bind, Except.bind, hfold, RuleError.ofExpr]

/-- The result is a truth value that says whether the statement holds. -/
def Tells (result : Except RuleError Value) (p : Prop) : Prop :=
  ∃ value, result = .ok (.bool value) ∧ (value = true ↔ p)

theorem Tells.decides (htells : Tells result p) (purpose : String) :
    Decides (truthOf purpose result) p := by
  obtain ⟨value, hok, hvalue⟩ := htells
  rw [hok]
  exact Decides.of_ok hvalue

theorem Tells.congr (htells : Tells result p) (heq : p ↔ q) : Tells result q := by
  obtain ⟨value, hok, hvalue⟩ := htells
  exact ⟨value, hok, hvalue.trans heq⟩

theorem tells_of_decides (hanswer : Decides answer p) :
    Tells (do return .bool (← answer)) p := by
  obtain ⟨value, hok, hvalue⟩ := hanswer
  rw [hok]
  exact ⟨value, rfl, hvalue⟩

theorem tells_negation (hbody : Tells (body.eval helpers environment) p) :
    Tells ((negation body).eval helpers environment) (¬p) := by
  obtain ⟨value, hok, hvalue⟩ := hbody
  rw [eval_negation, hok]
  refine ⟨!value, rfl, ?_⟩
  rw [← hvalue]
  cases value <;> simp

theorem tells_comparison {a b : Value} (isEqual : Bool)
    (hleft : left.eval helpers environment = .ok a)
    (hright : right.eval helpers environment = .ok b) (hequals : Decides (a.equals b) p) :
    Tells ((comparison isEqual left right).eval helpers environment) (p ↔ isEqual = true) := by
  obtain ⟨value, hok, hvalue⟩ := hequals
  rw [eval_comparison, hleft, hright]
  refine ⟨value == isEqual, ?_, ?_⟩
  · simp [hok, RuleError.ofExpr, bind, Except.bind, pure, Except.pure]
  · rw [← hvalue]
    cases value <;> cases isEqual <;> simp

theorem tells_equality {a b : Value} (hleft : left.eval helpers environment = .ok a)
    (hright : right.eval helpers environment = .ok b) (hequals : Decides (a.equals b) p) :
    Tells ((comparison true left right).eval helpers environment) p :=
  (tells_comparison true hleft hright hequals).congr (by simp)

theorem tells_difference {a b : Value} (hleft : left.eval helpers environment = .ok a)
    (hright : right.eval helpers environment = .ok b) (hequals : Decides (a.equals b) p) :
    Tells ((comparison false left right).eval helpers environment) (¬p) :=
  (tells_comparison false hleft hright hequals).congr (by simp)

theorem evalEach_pair {a b : Value} (hleft : left.eval helpers environment = .ok a)
    (hright : right.eval helpers environment = .ok b) :
    evalEach helpers [left, right] environment = .ok [a, b] := by
  simp [evalEach_cons, evalEach_nil, hleft, hright, bind, Except.bind, pure, Except.pure]

theorem evalEach_singleton {a : Value} (hitem : item.eval helpers environment = .ok a) :
    evalEach helpers [item] environment = .ok [a] := by
  simp [evalEach_cons, evalEach_nil, hitem, bind, Except.bind, pure, Except.pure]

theorem tells_call {function : Builtin} {values : List Value}
    (harguments : evalEach helpers arguments environment = .ok values)
    (hanswer : Decides (function.apply helpers values) p) :
    Tells ((call function arguments).eval helpers environment) p := by
  rw [eval_call, harguments]
  exact tells_of_decides hanswer

theorem decides_evalAll_singleton (hitem : Tells (item.eval helpers environment) p) :
    Decides (evalAll helpers [item] environment) p := by
  have hnil : Decides (evalAll helpers [] environment) True := by
    rw [evalAll_nil]
    exact Decides.of_ok (by simp)
  rw [evalAll_cons]
  exact ((hitem.decides "and").and fun _ => hnil).congr (and_true p).to_iff

theorem decides_evalAll_cons (hitem : Tells (item.eval helpers environment) p)
    (hitems : Decides (evalAll helpers items environment) q) :
    Decides (evalAll helpers (item :: items) environment) (p ∧ q) := by
  rw [evalAll_cons]
  exact (hitem.decides "and").and fun _ => hitems

theorem decides_evalAny_singleton (hitem : Tells (item.eval helpers environment) p) :
    Decides (evalAny helpers [item] environment) p := by
  have hnil : Decides (evalAny helpers [] environment) False := by
    rw [evalAny_nil]
    exact Decides.of_ok (by simp)
  rw [evalAny_cons]
  exact ((hitem.decides "or").or fun _ => hnil).congr (or_false p).to_iff

theorem decides_evalAny_cons (hitem : Tells (item.eval helpers environment) p)
    (hitems : Decides (evalAny helpers items environment) q) :
    Decides (evalAny helpers (item :: items) environment) (p ∨ q) := by
  rw [evalAny_cons]
  exact (hitem.decides "or").or fun _ => hitems

theorem tells_conjunction (hitems : Decides (evalAll helpers items environment) p) :
    Tells ((conjunction items).eval helpers environment) p := by
  obtain ⟨value, hok, hvalue⟩ := hitems
  rw [eval_conjunction, hok]
  exact ⟨value, rfl, hvalue⟩

theorem tells_disjunction (hitems : Decides (evalAny helpers items environment) p) :
    Tells ((disjunction items).eval helpers environment) p := by
  obtain ⟨value, hok, hvalue⟩ := hitems
  rw [eval_disjunction, hok]
  exact ⟨value, rfl, hvalue⟩

/-- A comparison decides what its expression tells. -/
theorem decides_compare {a b : Value} {comparison : Expr}
    (htells : Tells (comparison.eval helpers (bindings a b)) p) :
    Decides (comparison.compare helpers a b) p := by
  rw [compare_eq]
  exact htells.decides "comparison"

end ReqConflict.Expr
