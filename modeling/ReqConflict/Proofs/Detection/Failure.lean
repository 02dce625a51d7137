import ReqConflict.Proofs.Detection.Scan
import ReqConflict.Proofs.RuleSet.Nesting

/-!
# How detection fails

Judging a rule of a compiled rule set fails only because of the subjects: a
field is absent on one, is no list of conditions, or has a value that an
expression cannot use.  Whatever is looked up in the document has been found
when the document was compiled.  Detection fails in no other way, since every
rule that a scan judges is one of the rule set.
-/

namespace ReqConflict

namespace RuleSet

variable {rules : RuleSet} {error : RuleError}

theorem inRule_of_judge (hrules : rules.IsCompiled) {name : String} (hname : name ∈ rules.names)
    {x y : Subject} (herror : rules.judge name x y = .error error) :
    (∃ cause, error = .inRule name cause) ∧ error.root.IsEvaluation := by
  refine ⟨?_, isEvaluation_judge hrules hname herror⟩
  obtain ⟨index, rule, hfind⟩ := exists_find? hname
  simp only [judge, judgeWith, hfind] at herror
  obtain ⟨cause, _, hcause⟩ := RuleError.within_eq_error_iff.mp herror
  exact ⟨cause, hcause⟩

/-- An error of a rule names the rule, and its root is about the subjects.  So
it is with an error of a detection, which names the rule of a kind. -/
theorem isEvaluation_of_error {document : RulesDocument}
    (hrules : ofDocument document = .ok rules) :
    (∀ name ∈ rules.names, ∀ (x y : Subject) (error : RuleError),
      rules.judge name x y = .error error →
        (∃ cause, error = .inRule name cause) ∧ error.root.IsEvaluation) ∧
    ∀ (requirements : List Requirement) (error : RuleError),
      rules.detect requirements = .error error →
        (∃ (kind : ConflictKind) (cause : RuleError), error = .inRule kind.ruleName cause) ∧
          error.root.IsEvaluation := by
  have hcompiled := isCompiled_ofDocument hrules
  refine ⟨fun name hname x y error herror => inRule_of_judge hcompiled hname herror, ?_⟩
  intro requirements error herror
  have hscan : rules.scan requirements = .error error := by
    rcases bind_eq_error_iff.mp herror with hscan | ⟨_, _, hresult⟩
    · exact hscan
    · cases hresult
  obtain ⟨_, _, kind, hfails⟩ := exists_fails_of_scan hscan
  obtain ⟨x, y, hholds⟩ : ∃ x y, rules.holds kind x y = .error error :=
    hfails.elim (fun hforth => ⟨_, _, hforth⟩) (fun hback => ⟨_, _, hback⟩)
  obtain ⟨⟨cause, hcause⟩, hroot⟩ :=
    inRule_of_judge hcompiled (ruleName_mem_names hcompiled kind) hholds
  exact ⟨⟨kind, cause, hcause⟩, hroot⟩

/-- A document in which the comparison of agents is an agent, not a truth
value. -/
def undecided : RulesDocument where
  fieldTypes := ⟨[("agent", "entity")], by decide⟩
  allowedTypes := ⟨[("equal", ["entity"])], by decide⟩
  operators :=
    ⟨[("equal", ⟨[("entity", "a")], by decide⟩), ("include", ⟨[("entity", "true")], by decide⟩)],
      by decide⟩
  rules := RuleName.required.map fun name => (.string name, .string "1 agent equal 2 agent")

def undecidedRules : RuleSet where
  registry :=
    ⟨⟨[("agent", "entity")], by decide⟩, [(.equals, "entity")],
      [((.equals, "entity"), .path "a" []), ((.includes, "entity"), .bool true)]⟩
  rules :=
    let body : Rule := .relation .first "agent" .equals .second "agent"
    RuleName.required.map (NamedRule.mk · body) ++
      [⟨RuleName.inputOutputInterlock, .interlock 4 body⟩]

theorem isEvaluation_of_error_undecided :
    ofDocument undecided = .ok undecidedRules ∧
      (∃ error, undecidedRules.judge RuleName.conditionInclude default default = .error error ∧
        error.root.IsEvaluation) ∧
      ∃ error, undecidedRules.detect [default, default] = .error error ∧
        error.root.IsEvaluation := by
  have hrules : ofDocument undecided = .ok undecidedRules :=
    toOption_eq_some_iff.mp (by decide +kernel)
  have hname : RuleName.conditionInclude ∈ undecidedRules.names := by decide +kernel
  obtain ⟨hjudge, hdetect⟩ := isEvaluation_of_error hrules
  obtain ⟨error, herror⟩ : ∃ error,
      undecidedRules.judge RuleName.conditionInclude default default = .error error :=
    toOption_eq_none_iff.mp (by decide +kernel)
  obtain ⟨failure, hfailure⟩ : ∃ error,
      undecidedRules.detect [default, default] = .error error :=
    toOption_eq_none_iff.mp (by decide +kernel)
  exact ⟨hrules, ⟨error, herror, (hjudge _ hname _ _ error herror).2⟩,
    failure, hfailure, (hdetect _ failure hfailure).2⟩

end RuleSet

end ReqConflict
