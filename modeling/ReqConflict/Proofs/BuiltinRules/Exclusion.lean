import ReqConflict.Proofs.BuiltinRules.Judgement

/-!
# Kinds that exclude each other

Some of the built-in kinds cannot hold for the same two requirements, in
whatever order either is judged.  They are told apart by a relation that does
not depend on the order: whether the operations are equal, whether the
restrictions contradict each other, or whether the events are the same.
-/

namespace ReqConflict

namespace Requirement

def SameOperation (x y : Requirement) : Prop :=
  x.operation = y.operation

def SameEvents (x y : Requirement) : Prop :=
  ∀ event, event ∈ x.events ↔ event ∈ y.events

end Requirement

namespace ConflictKind

variable {kind other : ConflictKind} {related : Requirement → Requirement → Prop}
  {x y : Requirement}

/-- A kind holds for two requirements in some order. -/
def HoldsBetween (kind : ConflictKind) (x y : Requirement) : Prop :=
  kind.Holds x y ∨ kind.Holds y x

/-- A relation holds where the one kind does, and fails where the other does. -/
structure ToldApart (kind other : ConflictKind) (related : Requirement → Requirement → Prop) :
    Prop where
  symm : ∀ {x y}, related x y → related y x
  of_holds : ∀ {x y}, kind.Holds x y → related x y
  not_of_holds : ∀ {x y}, other.Holds x y → ¬related x y

theorem ToldApart.not_holdsBetween (happart : ToldApart kind other related)
    (hkind : kind.HoldsBetween x y) : ¬other.HoldsBetween x y := by
  have hrelated : related x y := by
    rcases hkind with hforth | hback
    · exact happart.of_holds hforth
    · exact happart.symm (happart.of_holds hback)
  rintro (hforth | hback)
  · exact happart.not_of_holds hforth hrelated
  · exact happart.not_of_holds hback (happart.symm hrelated)

/-- Requirements with inconsistent operations are the only ones between which
a direct conflict does not need the same operation. -/
theorem toldApart_sameOperation
    (hkind : kind ∈ [restrictionInconsistency, operationInclusion, eventInclusion]) :
    ToldApart kind operationInconsistency Requirement.SameOperation where
  symm := Eq.symm
  of_holds := by
    intro x y hholds
    simp only [List.mem_cons, List.not_mem_nil, or_false] at hkind
    rcases hkind with rfl | rfl | rfl
    · obtain ⟨⟨_, hoperation, _⟩, _⟩ := hholds
      exact hoperation
    · obtain ⟨hoperation, _⟩ := hholds
      exact hoperation
    · obtain ⟨_, hoperation, _⟩ := hholds
      exact hoperation
  not_of_holds := by
    intro x y hholds hoperation
    obtain ⟨⟨_, _, hnegated, _⟩, _⟩ := hholds
    exact hnegated (congrArg Operation.negated hoperation)

theorem toldApart_restrictions :
    ToldApart restrictionInconsistency operationInclusion
      Requirement.RestrictionsContradict where
  symm := (Requirement.restrictionsContradict_comm _ _).mp
  of_holds := fun ⟨_, _, hrestrictions⟩ => hrestrictions
  not_of_holds := by
    intro x y hholds hrestrictions
    obtain ⟨_, _, _, _, hincluded, _⟩ := hholds
    obtain ⟨hrestricted, _, hdisjoint⟩ := hrestrictions
    obtain ⟨text, htext⟩ := List.exists_mem_of_ne_nil _ hrestricted
    exact hdisjoint text htext (hincluded text htext)

theorem toldApart_events :
    ToldApart operationInclusion eventInclusion Requirement.SameEvents where
  symm := fun hsame event => (hsame event).symm
  of_holds := fun ⟨_, _, _, _, _, hsame⟩ => hsame
  not_of_holds := fun ⟨_, _, _, _, _, hnot⟩ hsame => hnot hsame

end ConflictKind

/-- The rule of a kind is judged to be true of two requirements in some order. -/
def RuleSet.TrueBetween (rules : RuleSet) (kind : ConflictKind) (x y : Requirement) : Prop :=
  rules.judge kind.ruleName (.requirement x) (.requirement y) = .ok true ∨
    rules.judge kind.ruleName (.requirement y) (.requirement x) = .ok true

/-- The rules of two kinds are never both true between two requirements. -/
def RuleSet.Exclude (rules : RuleSet) (kind other : ConflictKind) : Prop :=
  ∀ x y, rules.TrueBetween kind x y → ¬rules.TrueBetween other x y

theorem RuleSet.Exclude.symm {rules : RuleSet} {kind other : ConflictKind}
    (hexclude : rules.Exclude kind other) : rules.Exclude other kind :=
  fun x y hother hkind => hexclude x y hkind hother

namespace BuiltinRules

theorem trueBetween_iff (kind : ConflictKind) (x y : Requirement) :
    ruleSet.TrueBetween kind x y ↔ kind.HoldsBetween x y := by
  have hforth := (decides_judge kind x y).eq_ok_true_iff
  have hback := (decides_judge kind y x).eq_ok_true_iff
  exact or_congr hforth hback

theorem exclude_of_toldApart {kind other : ConflictKind}
    {related : Requirement → Requirement → Prop}
    (happart : ConflictKind.ToldApart kind other related) : ruleSet.Exclude kind other := by
  intro x y hkind
  rw [trueBetween_iff] at hkind ⊢
  exact happart.not_holdsBetween hkind

/-- The system closes a valve, or must not. -/
def closing (negated : Bool) (restriction : List String) (events : List Condition) :
    Requirement where
  agent := .system
  operation := ⟨"close", negated, false⟩
  input := [.own ⟨"valve", .empty, false⟩]
  output := []
  restriction := restriction
  id := 0
  group := 0
  events := events

theorem exists_trueBetween :
    ∀ kind ∈ [ConflictKind.operationInconsistency, .restrictionInconsistency,
      .operationInclusion, .eventInclusion], ∃ x y, ruleSet.TrueBetween kind x y := by
  have hoperation : ConflictKind.operationInconsistency.Holds (closing false [] [])
      (closing true [] []) := by decide
  have hrestriction : ConflictKind.restrictionInconsistency.Holds (closing false ["by day"] [])
      (closing false ["by night"] []) := by decide
  have hinclusion : ConflictKind.operationInclusion.Holds (closing false [] [])
      (closing false ["by day"] []) := by decide
  have hevents : ConflictKind.eventInclusion.Holds (closing false [] [])
      (closing false [] [(closing true [] []).toCondition]) := by decide
  simp only [List.forall_mem_cons, trueBetween_iff]
  exact ⟨⟨_, _, Or.inl hoperation⟩, ⟨_, _, Or.inl hrestriction⟩, ⟨_, _, Or.inl hinclusion⟩,
    ⟨_, _, Or.inl hevents⟩, List.forall_mem_nil _⟩

/-- Each of these built-in kinds is true between some requirements.  Of the
first three at most one is true between two requirements, and the two kinds
about operations leave no inclusion of events. -/
theorem exclude_builtin :
    ∃ rules, compiled RulesDocument.builtinText = .ok rules ∧
      (∀ kind ∈ [ConflictKind.operationInconsistency, .restrictionInconsistency,
        .operationInclusion, .eventInclusion], ∃ x y, rules.TrueBetween kind x y) ∧
      [ConflictKind.operationInconsistency, .restrictionInconsistency,
        .operationInclusion].Pairwise rules.Exclude ∧
      rules.Exclude .operationInconsistency .eventInclusion ∧
      rules.Exclude .operationInclusion .eventInclusion := by
  have hoperation : ∀ kind ∈ [ConflictKind.restrictionInconsistency, .operationInclusion,
      .eventInclusion], ruleSet.Exclude .operationInconsistency kind :=
    fun kind hkind => (exclude_of_toldApart (ConflictKind.toldApart_sameOperation hkind)).symm
  have hrestriction := exclude_of_toldApart ConflictKind.toldApart_restrictions
  have hevents := exclude_of_toldApart ConflictKind.toldApart_events
  refine ⟨ruleSet, compiled_builtinText, exists_trueBetween, ?_, hoperation _ (by simp), hevents⟩
  simp [hoperation, hrestriction]

end BuiltinRules

end ReqConflict
