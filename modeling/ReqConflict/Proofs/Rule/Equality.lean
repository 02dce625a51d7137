import ReqConflict.RuleSet

/-!
# Equality of expressions and rules

Expressions and rules contain lists of themselves.  Their equality is decided
by comparing them part by part, so that two rule sets can be compared by
evaluation.
-/

namespace ReqConflict

namespace Expr

mutual

def same : Expr → Expr → Bool
  | bool v, bool w => v == w
  | text v, text w => v == w
  | path v as, path w bs => v == w && as == bs
  | negation a, negation b => same a b
  | conjunction as, conjunction bs => sameEach as bs
  | disjunction as, disjunction bs => sameEach as bs
  | comparison v a b, comparison w c d => v == w && same a c && same b d
  | call f as, call g bs => f == g && sameEach as bs
  | quantified q v a b, quantified r w c d => q == r && v == w && same a c && same b d
  | _, _ => false

def sameEach : List Expr → List Expr → Bool
  | [], [] => true
  | a :: as, b :: bs => same a b && sameEach as bs
  | _, _ => false

end

mutual

theorem eq_of_same : ∀ a b : Expr, same a b = true → a = b
  | bool v, b, h => by
      cases b with
      | bool w =>
          rw [same, beq_iff_eq] at h
          rw [h]
      | _ => simp [same] at h
  | text v, b, h => by
      cases b with
      | text w =>
          rw [same, beq_iff_eq] at h
          rw [h]
      | _ => simp [same] at h
  | path v as, b, h => by
      cases b with
      | path w bs =>
          simp only [same, Bool.and_eq_true, beq_iff_eq] at h
          rw [h.1, h.2]
      | _ => simp [same] at h
  | negation a, b, h => by
      cases b with
      | negation b =>
          rw [same] at h
          rw [eq_of_same a b h]
      | _ => simp [same] at h
  | conjunction as, b, h => by
      cases b with
      | conjunction bs =>
          rw [same] at h
          rw [eq_of_sameEach as bs h]
      | _ => simp [same] at h
  | disjunction as, b, h => by
      cases b with
      | disjunction bs =>
          rw [same] at h
          rw [eq_of_sameEach as bs h]
      | _ => simp [same] at h
  | comparison v a b, e, h => by
      cases e with
      | comparison w c d =>
          simp only [same, Bool.and_eq_true, beq_iff_eq] at h
          rw [h.1.1, eq_of_same a c h.1.2, eq_of_same b d h.2]
      | _ => simp [same] at h
  | call f as, b, h => by
      cases b with
      | call g bs =>
          simp only [same, Bool.and_eq_true, beq_iff_eq] at h
          rw [h.1, eq_of_sameEach as bs h.2]
      | _ => simp [same] at h
  | quantified q v a b, e, h => by
      cases e with
      | quantified r w c d =>
          simp only [same, Bool.and_eq_true, beq_iff_eq] at h
          rw [h.1.1.1, h.1.1.2, eq_of_same a c h.1.2, eq_of_same b d h.2]
      | _ => simp [same] at h

theorem eq_of_sameEach : ∀ as bs : List Expr, sameEach as bs = true → as = bs
  | [], bs, h => by
      cases bs with
      | nil => rfl
      | cons b bs => simp [sameEach] at h
  | a :: as, bs, h => by
      cases bs with
      | nil => simp [sameEach] at h
      | cons b bs =>
          simp only [sameEach, Bool.and_eq_true] at h
          rw [eq_of_same a b h.1, eq_of_sameEach as bs h.2]

end

mutual

theorem same_self : ∀ a : Expr, same a a = true
  | bool _ | text _ | path .. => by simp [same]
  | negation a => by simp [same, same_self a]
  | conjunction as | disjunction as => by simp [same, sameEach_self as]
  | comparison _ a b => by simp [same, same_self a, same_self b]
  | call _ as => by simp [same, sameEach_self as]
  | quantified _ _ a b => by simp [same, same_self a, same_self b]

theorem sameEach_self : ∀ as : List Expr, sameEach as as = true
  | [] => by simp [sameEach]
  | a :: as => by simp [sameEach, same_self a, sameEach_self as]

end

instance : DecidableEq Expr :=
  fun a b => decidable_of_iff (same a b = true)
    ⟨eq_of_same a b, fun heq => heq ▸ same_self a⟩

end Expr

namespace Rule

mutual

def same : Rule → Rule → Bool
  | relation l f r m g, relation l' f' r' m' g' =>
      l == l' && f == f' && r == r' && m == m' && g == g'
  | negation a, negation b => same a b
  | conjunction as, conjunction bs => sameEach as bs
  | disjunction as, disjunction bs => sameEach as bs
  | named i n a, named j m b => i == j && n == m && same a b
  | loop q s f a, loop r t g b => q == r && s == t && f == g && same a b
  | interlock i a, interlock j b => i == j && same a b
  | _, _ => false

def sameEach : List Rule → List Rule → Bool
  | [], [] => true
  | a :: as, b :: bs => same a b && sameEach as bs
  | _, _ => false

end

mutual

theorem eq_of_same : ∀ a b : Rule, same a b = true → a = b
  | relation l f r m g, b, h => by
      cases b with
      | relation l' f' r' m' g' =>
          simp only [same, Bool.and_eq_true, beq_iff_eq] at h
          obtain ⟨⟨⟨⟨hl, hf⟩, hr⟩, hm⟩, hg⟩ := h
          rw [hl, hf, hr, hm, hg]
      | _ => simp [same] at h
  | negation a, b, h => by
      cases b with
      | negation b =>
          rw [same] at h
          rw [eq_of_same a b h]
      | _ => simp [same] at h
  | conjunction as, b, h => by
      cases b with
      | conjunction bs =>
          rw [same] at h
          rw [eq_of_sameEach as bs h]
      | _ => simp [same] at h
  | disjunction as, b, h => by
      cases b with
      | disjunction bs =>
          rw [same] at h
          rw [eq_of_sameEach as bs h]
      | _ => simp [same] at h
  | named i n a, b, h => by
      cases b with
      | named j m b =>
          simp only [same, Bool.and_eq_true, beq_iff_eq] at h
          rw [h.1.1, h.1.2, eq_of_same a b h.2]
      | _ => simp [same] at h
  | loop q s f a, b, h => by
      cases b with
      | loop r t g b =>
          simp only [same, Bool.and_eq_true, beq_iff_eq] at h
          rw [h.1.1.1, h.1.1.2, h.1.2, eq_of_same a b h.2]
      | _ => simp [same] at h
  | interlock i a, b, h => by
      cases b with
      | interlock j b =>
          simp only [same, Bool.and_eq_true, beq_iff_eq] at h
          rw [h.1, eq_of_same a b h.2]
      | _ => simp [same] at h

theorem eq_of_sameEach : ∀ as bs : List Rule, sameEach as bs = true → as = bs
  | [], bs, h => by
      cases bs with
      | nil => rfl
      | cons b bs => simp [sameEach] at h
  | a :: as, bs, h => by
      cases bs with
      | nil => simp [sameEach] at h
      | cons b bs =>
          simp only [sameEach, Bool.and_eq_true] at h
          rw [eq_of_same a b h.1, eq_of_sameEach as bs h.2]

end

mutual

theorem same_self : ∀ a : Rule, same a a = true
  | relation .. => by simp [same]
  | negation a => by simp [same, same_self a]
  | conjunction as | disjunction as => by simp [same, sameEach_self as]
  | named _ _ a | loop _ _ _ a | interlock _ a => by simp [same, same_self a]

theorem sameEach_self : ∀ as : List Rule, sameEach as as = true
  | [] => by simp [sameEach]
  | a :: as => by simp [sameEach, same_self a, sameEach_self as]

end

instance : DecidableEq Rule :=
  fun a b => decidable_of_iff (same a b = true)
    ⟨eq_of_same a b, fun heq => heq ▸ same_self a⟩

end Rule

deriving instance DecidableEq for NamedRule

instance {α : Type} [DecidableEq α] : DecidableEq (Table α) :=
  fun a b => decidable_of_iff (a.entries = b.entries)
    ⟨fun heq => by cases a; cases b; cases heq; rfl, fun heq => heq ▸ rfl⟩

deriving instance DecidableEq for Registry

deriving instance DecidableEq for RuleSet

end ReqConflict
