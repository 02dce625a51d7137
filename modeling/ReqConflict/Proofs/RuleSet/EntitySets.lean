import ReqConflict.Proofs.Detection.Failure

/-!
# Lists of entities without rules

Whether one list of entities includes another is settled by comparing single
entities, and no expression gets from two entities to a list that a helper
takes.  So no helper is asked, whatever the comparison of entities calls, and
the registry alone answers as the rule set around it does.
-/

namespace ReqConflict

namespace Registry

variable {registry : Registry}

theorem entitySetRequests_eq_nil (hregistry : registry.IsComplete) (helpers : Helpers)
    (a b : List Entity) : registry.entitySetRequests helpers a b = [] := by
  apply List.eq_nil_iff_forall_not_mem.mpr
  intro request hrequest
  have hrank := (asks_entitySetInclude hregistry a b).bounded helpers request hrequest
  have hpos := request.rank_pos
  omega

theorem entitySetInclude_congr (hregistry : registry.IsComplete) (helpers others : Helpers)
    (a b : List Entity) :
    registry.entitySetInclude helpers a b = registry.entitySetInclude others a b := by
  apply (asks_entitySetInclude hregistry a b).agrees
  intro request hrequest
  rw [entitySetRequests_eq_nil hregistry] at hrequest
  cases hrequest

theorem isEvaluation_entitySetInclude (hregistry : registry.IsComplete) {helpers : Helpers}
    {a b : List Entity} {error : RuleError}
    (herror : registry.entitySetInclude helpers a b = .error error) : error.root.IsEvaluation := by
  rcases (asks_entitySetInclude hregistry a b).fails helpers error herror with
    hown | ⟨request, hrequest, _⟩
  · exact hown
  · rw [entitySetRequests_eq_nil hregistry] at hrequest
    cases hrequest

end Registry

namespace RuleSet

/-- The inclusion of lists of entities has one answer, by the helpers of a
compiled rule set, by those of its registry, and by any others that its
comparison of entities may be given.  An error is one of the comparison itself:
no rule is missed and nothing is nested too deeply. -/
theorem entitySetInclude_eq_registry {document : RulesDocument} {rules : RuleSet}
    (hrules : ofDocument document = .ok rules) (a b : List Entity) :
    rules.helpers.entitySetInclude a b = rules.registry.helpers.entitySetInclude a b ∧
      (∀ helpers,
        rules.registry.entitySetInclude helpers a b = rules.helpers.entitySetInclude a b) ∧
      ∀ error, rules.helpers.entitySetInclude a b = .error error → error.root.IsEvaluation := by
  have hcomplete := (isCompiled_ofDocument hrules).complete
  refine ⟨?_, ?_, ?_⟩
  · exact Registry.entitySetInclude_congr hcomplete _ _ a b
  · exact fun helpers => Registry.entitySetInclude_congr hcomplete helpers _ a b
  · exact fun error herror => Registry.isEvaluation_entitySetInclude hcomplete herror

/-- A document whose comparison of entities calls all helpers: the one for
lists of entities on equal bases, and one for conditions otherwise. -/
def consulting : RulesDocument :=
  { undecided with
    operators :=
      ⟨[("equal", ⟨[("entity", "a == b")], by decide⟩),
          ("include",
            ⟨[("entity", "a == b or a.base == b.base and entity_set_include(a, b)" ++
              " or condition_set_include(a, b) or condition_contradict(a)")], by decide⟩)],
        by decide⟩ }

def lamp : Entity :=
  .own ⟨"lamp", .empty, false⟩

/-- The error of a call with entities is the same on both sides, though the
registry has no rules to judge conditions by. -/
theorem entitySetInclude_eq_registry_consulting :
    ∃ rules, ofDocument consulting = .ok rules ∧
      rules.helpers.entitySetInclude [lamp] [.system] =
        rules.registry.helpers.entitySetInclude [lamp] [.system] ∧
      rules.helpers.entitySetInclude [lamp] [.system] =
        .error (.expression (.kind "condition_set_include" "condition list" "entity")) := by
  have hanswer : (ofDocument consulting).toOption.map
      (fun rules => rules.registry.helpers.entitySetInclude [lamp] [.system]) =
        some (.error (.expression (.kind "condition_set_include" "condition list" "entity"))) := by
    decide +kernel
  obtain ⟨rules, hrules, hanswer⟩ := Option.map_eq_some_iff.mp hanswer
  rw [toOption_eq_some_iff] at hrules
  obtain ⟨hsame, _, _⟩ := entitySetInclude_eq_registry hrules [lamp] [.system]
  exact ⟨rules, hrules, hsame, hsame.trans hanswer⟩

end RuleSet

end ReqConflict
