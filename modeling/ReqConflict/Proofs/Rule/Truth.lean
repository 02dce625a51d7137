import ReqConflict.Proofs.Decides
import ReqConflict.Rule.Basic

/-!
# Rules that decide a statement

One lemma for each form of rule: what it decides about two subjects, given what
its parts decide.  A called rule decides what it decides on its own; the name
that it is called by only shows in errors.
-/

namespace ReqConflict

variable {registry : Registry} {helpers : Helpers} {x y : Subject} {field1 field2 type : String}
  {relation : Relation} {p q : Prop}

theorem Registry.decides_relate {a b : Value} {comparison : Expr}
    (hfield1 : x.field field1 = .ok a) (hfield2 : y.field field2 = .ok b)
    (htype : registry.check field1 relation field2 = .ok type)
    (hcomparison : registry.comparison relation type = .ok comparison)
    (hanswer : Decides (comparison.compare helpers a b) p) :
    Decides (registry.relate helpers x field1 relation y field2) p := by
  have hrelate : registry.relate helpers x field1 relation y field2 =
      comparison.compare helpers a b := by
    rw [relate, hfield1, hfield2, htype]
    simp only [bind, Except.bind, compare, hcomparison]
  rw [hrelate]
  exact hanswer

namespace Rule

variable {item body : Rule} {items : List Rule}

theorem eval_relation (left right : Side) (field1 field2 : String) (name : Relation) :
    (Rule.relation left field1 name right field2).eval registry helpers x y =
      registry.relate helpers (left.pick x y) field1 name (right.pick x y) field2 :=
  rfl

theorem eval_negation (body : Rule) :
    (negation body).eval registry helpers x y =
      (do return !(← body.eval registry helpers x y)) :=
  rfl

theorem eval_conjunction (items : List Rule) :
    (conjunction items).eval registry helpers x y = evalAll registry helpers items x y :=
  rfl

theorem eval_disjunction (items : List Rule) :
    (disjunction items).eval registry helpers x y = evalAny registry helpers items x y :=
  rfl

theorem eval_named (index : Nat) (name : String) (body : Rule) :
    (named index name body).eval registry helpers x y =
      RuleError.within name (body.eval registry helpers x y) :=
  rfl

theorem eval_loop_first (quantifier : Quantifier) (field : String) (body : Rule) :
    (loop quantifier .first field body).eval registry helpers x y =
      (do
        let conditions ← x.conditions field
        quantifier.over (fun c => body.eval registry helpers (.condition c) y) conditions) :=
  rfl

theorem eval_loop_second (quantifier : Quantifier) (field : String) (body : Rule) :
    (loop quantifier .second field body).eval registry helpers x y =
      (do
        let conditions ← y.conditions field
        quantifier.over (fun c => body.eval registry helpers x (.condition c)) conditions) :=
  rfl

theorem eval_interlock (index : Nat) (inconsistency : Rule) :
    (interlock index inconsistency).eval registry helpers x y =
      (do
        let isInconsistent := fun x y =>
          RuleError.within RuleName.eventInconsistency (inconsistency.eval registry helpers x y)
        if ← isInconsistent x y then return false
        if ← isInconsistent y x then return false
        feeds registry helpers x y) :=
  rfl

theorem evalAll_nil : evalAll registry helpers [] x y = .ok true :=
  rfl

theorem evalAll_cons (item : Rule) (items : List Rule) :
    evalAll registry helpers (item :: items) x y =
      (do
        if ← item.eval registry helpers x y then evalAll registry helpers items x y
        else return false) :=
  rfl

theorem evalAny_nil : evalAny registry helpers [] x y = .ok false :=
  rfl

theorem evalAny_cons (item : Rule) (items : List Rule) :
    evalAny registry helpers (item :: items) x y =
      (do
        if ← item.eval registry helpers x y then return true
        else evalAny registry helpers items x y) :=
  rfl

theorem decides_relation {left right : Side}
    (hanswer : Decides
      (registry.relate helpers (left.pick x y) field1 relation (right.pick x y) field2) p) :
    Decides ((Rule.relation left field1 relation right field2).eval registry helpers x y) p := by
  rw [eval_relation]
  exact hanswer

theorem decides_negation (hbody : Decides (body.eval registry helpers x y) p) :
    Decides ((negation body).eval registry helpers x y) (¬p) := by
  rw [eval_negation]
  exact hbody.not

theorem decides_named (index : Nat) (name : String)
    (hbody : Decides (body.eval registry helpers x y) p) :
    Decides ((named index name body).eval registry helpers x y) p := by
  rw [eval_named]
  exact RuleError.decides_within hbody name

theorem decides_evalAll_singleton (hitem : Decides (item.eval registry helpers x y) p) :
    Decides (evalAll registry helpers [item] x y) p := by
  have hnil : Decides (evalAll registry helpers [] x y) True := by
    rw [evalAll_nil]
    exact Decides.of_ok (by simp)
  rw [evalAll_cons]
  exact (hitem.and fun _ => hnil).congr (and_true p).to_iff

theorem decides_evalAll_cons (hitem : Decides (item.eval registry helpers x y) p)
    (hitems : Decides (evalAll registry helpers items x y) q) :
    Decides (evalAll registry helpers (item :: items) x y) (p ∧ q) := by
  rw [evalAll_cons]
  exact hitem.and fun _ => hitems

theorem decides_evalAny_singleton (hitem : Decides (item.eval registry helpers x y) p) :
    Decides (evalAny registry helpers [item] x y) p := by
  have hnil : Decides (evalAny registry helpers [] x y) False := by
    rw [evalAny_nil]
    exact Decides.of_ok (by simp)
  rw [evalAny_cons]
  exact (hitem.or fun _ => hnil).congr (or_false p).to_iff

theorem decides_evalAny_cons (hitem : Decides (item.eval registry helpers x y) p)
    (hitems : Decides (evalAny registry helpers items x y) q) :
    Decides (evalAny registry helpers (item :: items) x y) (p ∨ q) := by
  rw [evalAny_cons]
  exact hitem.or fun _ => hitems

theorem decides_conjunction (hitems : Decides (evalAll registry helpers items x y) p) :
    Decides ((conjunction items).eval registry helpers x y) p := by
  rw [eval_conjunction]
  exact hitems

theorem decides_disjunction (hitems : Decides (evalAny registry helpers items x y) p) :
    Decides ((disjunction items).eval registry helpers x y) p := by
  rw [eval_disjunction]
  exact hitems

variable {field : String} {conditions : List Condition} {holds : Condition → Prop}

theorem decides_loop_first (hconditions : x.conditions field = .ok conditions)
    (hbody : ∀ c, Decides (body.eval registry helpers (.condition c) y) (holds c)) :
    Decides ((loop .any .first field body).eval registry helpers x y)
      (∃ c ∈ conditions, holds c) := by
  rw [eval_loop_first, hconditions]
  exact Quantifier.decides_any hbody conditions

theorem decides_loop_second (hconditions : y.conditions field = .ok conditions)
    (hbody : ∀ c, Decides (body.eval registry helpers x (.condition c)) (holds c)) :
    Decides ((loop .any .second field body).eval registry helpers x y)
      (∃ c ∈ conditions, holds c) := by
  rw [eval_loop_second, hconditions]
  exact Quantifier.decides_any hbody conditions

/-- An interlock needs consistent events and an output that includes an
input. -/
theorem decides_interlock (index : Nat) {inconsistency : Rule} {feed : Prop}
    (hforth : Decides (inconsistency.eval registry helpers x y) p)
    (hback : Decides (inconsistency.eval registry helpers y x) q)
    (hfeeds : Decides (feeds registry helpers x y) feed) :
    Decides ((interlock index inconsistency).eval registry helpers x y) (¬p ∧ ¬q ∧ feed) := by
  rw [eval_interlock]
  apply (RuleError.decides_within hforth _).ite
  · intro hp
    exact Decides.of_ok (by simp [hp])
  · intro hp
    apply (RuleError.decides_within hback _).ite
    · intro hq
      exact Decides.of_ok (by simp [hq])
    · intro hq
      exact hfeeds.congr (by simp [hp, hq])

end Rule

end ReqConflict
