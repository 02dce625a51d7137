import ReqConflict.Expr.Eval

/-!
# Answers that decide a statement

Rules and comparisons answer with a truth value or with an error.  An answer
decides a statement if it is no error and says whether the statement holds.
Evaluation stops at the first item that settles the answer, so a later item
only has to decide its statement where evaluation gets to it.
-/

namespace ReqConflict

variable {α ε : Type} {answer first second : Except ε Bool} {p q : Prop}

/-- The answer is no error and says whether the statement holds. -/
def Decides (answer : Except ε Bool) (p : Prop) : Prop :=
  ∃ value, answer = .ok value ∧ (value = true ↔ p)

namespace Decides

theorem of_ok {value : Bool} (hvalue : value = true ↔ p) :
    Decides (.ok value : Except ε Bool) p :=
  ⟨value, rfl, hvalue⟩

theorem congr (hanswer : Decides answer p) (heq : p ↔ q) : Decides answer q := by
  obtain ⟨value, hok, hvalue⟩ := hanswer
  exact ⟨value, hok, hvalue.trans heq⟩

theorem eq_ok [Decidable p] (hanswer : Decides answer p) : answer = .ok (decide p) := by
  obtain ⟨value, hok, hvalue⟩ := hanswer
  rw [hok]
  cases value with
  | false =>
      have hnot : ¬p := fun hp => Bool.false_ne_true (hvalue.mpr hp)
      rw [decide_eq_false hnot]
  | true => rw [decide_eq_true (hvalue.mp rfl)]

theorem eq_ok_true_iff (hanswer : Decides answer p) : answer = .ok true ↔ p := by
  obtain ⟨value, hok, hvalue⟩ := hanswer
  rw [hok, ← hvalue, Except.ok.injEq]

theorem eq_of_iff (hfirst : Decides first p) (hsecond : Decides second q) (hiff : p ↔ q) :
    first = second := by
  classical
  rw [(hfirst.congr hiff).eq_ok, hsecond.eq_ok]

theorem not (hanswer : Decides answer p) :
    Decides (do return !(← answer)) (¬p) := by
  obtain ⟨value, hok, hvalue⟩ := hanswer
  rw [hok]
  refine ⟨!value, rfl, ?_⟩
  rw [← hvalue]
  cases value <;> simp

/-- A branch has to decide its statement only where it is taken. -/
theorem ite (hanswer : Decides answer p) (hfirst : p → Decides first q)
    (hsecond : ¬p → Decides second q) :
    Decides (do if ← answer then first else second) q := by
  obtain ⟨value, hok, hvalue⟩ := hanswer
  rw [hok]
  cases value with
  | false => exact hsecond fun hp => Bool.false_ne_true (hvalue.mpr hp)
  | true => exact hfirst (hvalue.mp rfl)

theorem and (hfirst : Decides first p) (hsecond : p → Decides second q) :
    Decides (do if ← first then second else return false) (p ∧ q) := by
  apply hfirst.ite
  · intro hp
    exact (hsecond hp).congr (by simp [hp])
  · intro hp
    exact of_ok (by simp [hp])

theorem or (hfirst : Decides first p) (hsecond : ¬p → Decides second q) :
    Decides (do if ← first then return true else second) (p ∨ q) := by
  apply hfirst.ite
  · intro hp
    exact of_ok (by simp [hp])
  · intro hp
    exact (hsecond hp).congr (by simp [hp])

end Decides

namespace Quantifier

variable {test : α → Except ε Bool} {holds : α → Prop}

theorem any_over_cons (test : α → Except ε Bool) (item : α) (items : List α) :
    Quantifier.any.over test (item :: items) =
      (do if ← test item then return true else Quantifier.any.over test items) := by
  rw [Quantifier.over]
  cases test item with
  | error cause => rfl
  | ok value => cases value <;> rfl

theorem all_over_cons (test : α → Except ε Bool) (item : α) (items : List α) :
    Quantifier.all.over test (item :: items) =
      (do if ← test item then Quantifier.all.over test items else return false) := by
  rw [Quantifier.over]
  cases test item with
  | error cause => rfl
  | ok value => cases value <;> rfl

theorem decides_any (htest : ∀ item, Decides (test item) (holds item)) (items : List α) :
    Decides (Quantifier.any.over test items) (∃ item ∈ items, holds item) := by
  induction items with
  | nil =>
      have hnil : Quantifier.any.over test [] = .ok false := rfl
      rw [hnil]
      exact Decides.of_ok (by simp)
  | cons item items ih =>
      rw [any_over_cons]
      exact ((htest item).or fun _ => ih).congr (by simp)

theorem decides_all (htest : ∀ item, Decides (test item) (holds item)) (items : List α) :
    Decides (Quantifier.all.over test items) (∀ item ∈ items, holds item) := by
  induction items with
  | nil =>
      have hnil : Quantifier.all.over test [] = .ok true := rfl
      rw [hnil]
      exact Decides.of_ok (by simp)
  | cons item items ih =>
      rw [all_over_cons]
      exact ((htest item).and fun _ => ih).congr (by simp)

end Quantifier

namespace RuleError

theorem decides_ofExpr {answer : Except ExprError Bool} (hanswer : Decides answer p) :
    Decides (ofExpr answer) p := by
  obtain ⟨value, hok, hvalue⟩ := hanswer
  rw [hok]
  exact Decides.of_ok hvalue

theorem decides_within {answer : Except RuleError Bool} (hanswer : Decides answer p)
    (name : String) : Decides (within name answer) p := by
  obtain ⟨value, hok, hvalue⟩ := hanswer
  rw [hok]
  exact Decides.of_ok hvalue

end RuleError

end ReqConflict
