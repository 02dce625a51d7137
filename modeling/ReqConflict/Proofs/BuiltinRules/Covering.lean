import ReqConflict.Proofs.BuiltinRules.Judgement

/-!
# Covering as an order

Every entity covers itself.  Covering composes except through an entity that
stands for every instance: it covers whatever has its base and owner, but it is
covered itself like a single thing, by what has no more modifiers.  What covers
it need not cover all that it covers.
-/

namespace ReqConflict

namespace Entity

variable {a b c : Entity}

/-- Of two entities with one base and one owner, the first stands for every
instance or has no more modifiers. -/
def IsAtLeast (a b : Entity) : Prop :=
  a.isAll = true ∨ ∀ modifier ∈ a.modifiers.toList, modifier ∈ b.modifiers.toList

instance (a b : Entity) : Decidable (a.IsAtLeast b) :=
  inferInstanceAs (Decidable (_ ∨ ∀ modifier ∈ a.modifiers.toList, modifier ∈ b.modifiers.toList))

theorem IsAtLeast.refl (a : Entity) : a.IsAtLeast a :=
  Or.inr fun _ hmodifier => hmodifier

/-- Equality is no case of its own: equal entities have the same modifiers. -/
theorem covers_iff : a.Covers b ↔ a.base = b.base ∧ a.whole? = b.whole? ∧ a.IsAtLeast b := by
  constructor
  · rintro (rfl | hcovers)
    · exact ⟨rfl, rfl, .refl a⟩
    · exact hcovers
  · exact Or.inr

theorem Covers.refl (a : Entity) : a.Covers a :=
  Or.inl rfl

/-- The flag of the entity in the middle decides: it widens what that entity
covers, and not what covers that entity. -/
theorem Covers.trans_iff (hab : a.Covers b) (hbc : b.Covers c) :
    a.Covers c ↔ (b.isAll = true → a.IsAtLeast c) := by
  obtain ⟨hbase, howner, hatLeast⟩ := covers_iff.mp hab
  obtain ⟨hbase', howner', hatLeast'⟩ := covers_iff.mp hbc
  rw [covers_iff]
  constructor
  · rintro ⟨_, _, hatLeast''⟩ _
    exact hatLeast''
  · intro hmiddle
    refine ⟨hbase.trans hbase', howner.trans howner', ?_⟩
    rcases hatLeast with hall | hfewer
    · exact Or.inl hall
    · rcases hatLeast' with hall | hfewer'
      · exact hmiddle hall
      · exact Or.inr fun modifier hmodifier => hfewer' modifier (hfewer modifier hmodifier)

end Entity

namespace BuiltinRules

theorem entityIncludes_eq (helpers : Helpers) (a b : Entity) :
    ruleSet.registry.entityIncludes helpers a b = .ok (decide (a.Covers b)) :=
  (decides_entityIncludes helpers a b).eq_ok

theorem covers_of_entityIncludes {helpers : Helpers} {a b : Entity}
    (hincludes : ruleSet.registry.entityIncludes helpers a b = .ok true) : a.Covers b :=
  (decides_entityIncludes helpers a b).eq_ok_true_iff.mp hincludes

/-- The built-in inclusion of entities answers every pair of entities, and
without an error: it says whether the first covers the second.  It is reflexive.
Along two inclusions it goes on to the third entity, unless the one in the middle
stands for every instance: then the first has to be at least the third by itself. -/
theorem entityIncludes_refl_and_trans :
    ∃ rules, compiled RulesDocument.builtinText = .ok rules ∧ ∀ helpers,
      (∀ a b, rules.registry.entityIncludes helpers a b = .ok (decide (a.Covers b))) ∧
      (∀ a, rules.registry.entityIncludes helpers a a = .ok true) ∧
      ∀ a b c, rules.registry.entityIncludes helpers a b = .ok true →
        rules.registry.entityIncludes helpers b c = .ok true →
          rules.registry.entityIncludes helpers a c =
            .ok (decide (b.isAll = true → a.IsAtLeast c)) := by
  refine ⟨ruleSet, compiled_builtinText, fun helpers => ⟨entityIncludes_eq helpers, ?_, ?_⟩⟩
  · intro a
    rw [entityIncludes_eq, decide_eq_true (Entity.Covers.refl a)]
  · intro a b c hab hbc
    have hfirst : a.Covers b := covers_of_entityIncludes hab
    have hsecond : b.Covers c := covers_of_entityIncludes hbc
    have hthird : a.Covers c ↔ (b.isAll = true → a.IsAtLeast c) :=
      hfirst.trans_iff hsecond
    rw [entityIncludes_eq]
    exact congrArg Except.ok (decide_eq_decide.mpr hthird)

/-- Users with some modifiers, one of them or all. -/
def user (isAll : Bool) (modifiers : List String) : Entity :=
  .own ⟨"user", .ofList modifiers, isAll⟩

/-- A user with no modifiers includes all new users, and these include old
users, which the first includes as well. -/
theorem entityIncludes_refl_and_trans_user :
    ∃ rules, compiled RulesDocument.builtinText = .ok rules ∧
      rules.registry.entityIncludes .none (user false []) (user true ["new"]) = .ok true ∧
      rules.registry.entityIncludes .none (user true ["new"]) (user false ["old"]) = .ok true ∧
      rules.registry.entityIncludes .none (user false []) (user false ["old"]) = .ok true := by
  obtain ⟨rules, hrules, hincludes⟩ := entityIncludes_refl_and_trans
  obtain ⟨hanswers, _, htrans⟩ := hincludes .none
  have hfirst : rules.registry.entityIncludes .none (user false []) (user true ["new"]) =
      .ok true := by
    rw [hanswers]
    exact congrArg Except.ok (by decide)
  have hsecond : rules.registry.entityIncludes .none (user true ["new"]) (user false ["old"]) =
      .ok true := by
    rw [hanswers]
    exact congrArg Except.ok (by decide)
  refine ⟨rules, hrules, hfirst, hsecond, ?_⟩
  rw [htrans _ _ _ hfirst hsecond]
  exact congrArg Except.ok (by decide)

/-- Inclusion is not transitive: a new user includes all new users, and these
include an old user, which a new user does not include. -/
theorem not_forall_entityIncludes_trans :
    ¬ ∀ rules, compiled RulesDocument.builtinText = .ok rules → ∀ helpers a b c,
      rules.registry.entityIncludes helpers a b = .ok true →
        rules.registry.entityIncludes helpers b c = .ok true →
          rules.registry.entityIncludes helpers a c = .ok true := by
  intro htrans
  have hthird := htrans ruleSet compiled_builtinText .none (user false ["new"])
    (user true ["new"]) (user false ["old"])
  simp only [entityIncludes_eq, Except.ok.injEq] at hthird
  exact absurd (hthird (by decide) (by decide)) (by decide)

end BuiltinRules

end ReqConflict
