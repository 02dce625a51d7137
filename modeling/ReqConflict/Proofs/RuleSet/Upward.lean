import ReqConflict.Proofs.Detection.Failure
import ReqConflict.Proofs.Rule.Equality
import ReqConflict.Proofs.RuleSet.Positions

/-!
# Calls go upwards

A call is of a rule that stands above the one that it is in.  A called rule is
part of the call, so a rule holds the calls of its own definition and those of
every rule that it gets to by them.  All of them, however deep, carry positions
above the rule, and the rule at the position has the name that the call asks for.

The derived rule stands last.  No definition in the document gets its name, and
the event inconsistency that it looks at stands above it like a called rule.
-/

namespace ReqConflict

namespace Rule

/-- Some rule is the whole of another one or a part of it at any depth, called
rules included. -/
inductive Contains (node : Rule) : Rule → Prop
  | self : Contains node node
  | negation {body : Rule} : Contains node body → Contains node (.negation body)
  | conjunction {items : List Rule} {item : Rule} (hitem : item ∈ items) :
      Contains node item → Contains node (.conjunction items)
  | disjunction {items : List Rule} {item : Rule} (hitem : item ∈ items) :
      Contains node item → Contains node (.disjunction items)
  | loop (quantifier : Quantifier) (owner : Side) (field : String) {body : Rule} :
      Contains node body → Contains node (.loop quantifier owner field body)
  | called (index : Nat) (name : String) {body : Rule} :
      Contains node body → Contains node (.named index name body)
  | inconsistency (index : Nat) {body : Rule} :
      Contains node body → Contains node (.interlock index body)

end Rule

namespace NamedRule

variable {rules : List NamedRule} {entry : NamedRule} {place index : Nat} {name : String}
  {body : Rule}

theorem getElem?_take_eq_some_iff :
    (rules.take place)[index]? = some entry ↔ index < place ∧ rules[index]? = some entry := by
  rw [List.getElem?_take]
  by_cases hlt : index < place <;> simp [hlt]

/-- Every call that is a part of a rule, at any depth, is of a rule above it, which has the name
in the call. -/
theorem CallAbove.getElem?_of_contains (hrules : CallAbove rules)
    (hentry : rules[place]? = some entry)
    (hcall : Rule.Contains (.named index name body) entry.rule) :
    index < place ∧ rules[index]? = some ⟨name, body⟩ := by
  -- by induction on the position: what a called rule holds is above that rule
  induction place using Nat.strongRecOn generalizing entry with
  | ind place ih =>
      have habove : ∀ {above : Nat} {called : NamedRule},
          (rules.take place)[above]? = some called →
            Rule.Contains (.named index name body) called.rule →
              index < place ∧ rules[index]? = some ⟨name, body⟩ := by
        intro above called hcalled hinside
        obtain ⟨hlt, hcalled⟩ := getElem?_take_eq_some_iff.mp hcalled
        obtain ⟨hindex, hfound⟩ := ih above hlt hcalled hinside
        exact ⟨Nat.lt_trans hindex hlt, hfound⟩
      have hcalls : entry.rule.CallsIn (rules.take place) := hrules place entry hentry
      generalize entry.rule = rule at hcall hcalls
      induction hcall with
      | self => exact getElem?_take_eq_some_iff.mp hcalls
      | negation _ ih | loop _ _ _ _ ih => exact ih hcalls
      | conjunction hitem _ ih | disjunction hitem _ ih =>
          exact ih (Rule.callsInEach_iff.mp hcalls _ hitem)
      | called _ _ hinside _ | inconsistency _ hinside _ => exact habove hcalls hinside

end NamedRule

namespace RuleSet

variable {document : RulesDocument} {rules : RuleSet}

/-- No definition of a document is compiled under the name of the derived rule. -/
theorem not_mem_names_compileBelow {registry : Registry} {above defined : List NamedRule}
    {definitions : List (Yaml.Value × Yaml.Value)}
    (habove : RuleName.inputOutputInterlock ∉ above.map (·.name))
    (hdefined : compileBelow registry above definitions = .ok defined) :
    RuleName.inputOutputInterlock ∉ defined.map (·.name) := by
  induction definitions generalizing above with
  | nil =>
      cases hdefined
      exact habove
  | cons definition definitions ih =>
      obtain ⟨name, _, ⟨_, hdefined⟩ | ⟨hname, rule, _, hdefined⟩⟩ :=
        compileBelow_cons_eq_ok_iff.mp hdefined
      · exact ih habove hdefined
      · refine ih ?_ hdefined
        rw [List.map_append, List.mem_append]
        rintro (hmem | hmem)
        · exact habove hmem
        · exact hname (List.mem_singleton.mp hmem).symm

/-- The derived rule is the last one, it is alone in its name, and it looks at an event
inconsistency above it. -/
theorem derived_ofDocument (hrules : ofDocument document = .ok rules) :
    rules.names.count RuleName.inputOutputInterlock = 1 ∧
      ∃ index inconsistency,
        rules.rules.getLast? =
            some ⟨RuleName.inputOutputInterlock, .interlock index inconsistency⟩ ∧
          index < rules.size - 1 ∧
          rules.rules[index]? = some ⟨RuleName.eventInconsistency, inconsistency⟩ := by
  obtain ⟨registry, defined, index, inconsistency, _, hdefined, _, hfind, rfl⟩ :=
    exists_of_ofDocument hrules
  have hnone : RuleName.inputOutputInterlock ∉ defined.map (·.name) :=
    not_mem_names_compileBelow List.not_mem_nil hdefined
  have hfound : defined[index]? = some ⟨RuleName.eventInconsistency, inconsistency⟩ :=
    NamedRule.getElem?_of_find? hfind
  have hlt : index < defined.length := (List.getElem?_eq_some_iff.mp hfound).1
  refine ⟨?_, index, inconsistency, List.getLast?_concat, ?_, ?_⟩
  · rw [names, List.map_append, List.count_append, List.count_eq_zero.mpr hnone]
    simp
  · simpa [size] using hlt
  · exact NamedRule.getElem?_concat_iff.mpr (Or.inl hfound)

/-- Judging a listed name evaluates the rule at a position that has the name. -/
theorem exists_judge_eq {name : String} (hname : name ∈ rules.names) :
    ∃ (index : Nat) (rule : Rule), rules.rules[index]? = some ⟨name, rule⟩ ∧
      ∀ x y, rules.judge name x y =
        RuleError.within name (rule.eval rules.registry rules.helpers x y) := by
  obtain ⟨index, rule, hfind⟩ := exists_find? hname
  refine ⟨index, rule, NamedRule.getElem?_of_find? hfind, fun x y => ?_⟩
  rw [judge, judgeWith, hfind]

/-- Of the rules that a document compiles to, each calls only rules above it, by their names.
The last one is the derived rule, which is alone in its name and looks at an event inconsistency
above it.  Judging a name evaluates a rule of that name. -/
theorem calls_upwards (hrules : ofDocument document = .ok rules) :
    (∀ (place : Nat) (entry : NamedRule), rules.rules[place]? = some entry →
      ∀ index name body, Rule.Contains (.named index name body) entry.rule →
        index < place ∧ rules.rules[index]? = some ⟨name, body⟩) ∧
    (rules.names.count RuleName.inputOutputInterlock = 1 ∧
      ∃ index inconsistency,
        rules.rules.getLast? =
            some ⟨RuleName.inputOutputInterlock, .interlock index inconsistency⟩ ∧
          index < rules.size - 1 ∧
          rules.rules[index]? = some ⟨RuleName.eventInconsistency, inconsistency⟩) ∧
    ∀ name ∈ rules.names, ∃ (index : Nat) (rule : Rule),
      rules.rules[index]? = some ⟨name, rule⟩ ∧
        ∀ x y, rules.judge name x y =
          RuleError.within name (rule.eval rules.registry rules.helpers x y) := by
  refine ⟨?_, derived_ofDocument hrules, fun _ => exists_judge_eq⟩
  intro place entry hentry index name body hcall
  exact (callAbove_ofDocument hrules).getElem?_of_contains hentry hcall

/-- Two more rules, of which the second calls the first, and a definition under the name of the
derived rule. -/
def layered : RulesDocument :=
  { undecided with
    rules := undecided.rules ++
      [ (.string RuleName.inputOutputInterlock, .null),
        (.string "upper",
          .mapping [(.string "not",
            .mapping [(.string "function", .string RuleName.eventInclusion)])]),
        (.string "lower",
          .mapping [(.string "for",
            .mapping
              [ (.string "label", .string "or"),
                (.string "index", .string "1"),
                (.string "field", .string "agent"),
                (.string "condition", .mapping [(.string "function", .string "upper")]) ])]) ] }

def layeredRules : RuleSet where
  registry := undecidedRules.registry
  rules :=
    let body : Rule := .relation .first "agent" .equals .second "agent"
    let upper : Rule := .negation (.named 6 RuleName.eventInclusion body)
    RuleName.required.map (NamedRule.mk · body) ++
      [ ⟨"upper", upper⟩,
        ⟨"lower", .loop .any .first "agent" (.named 8 "upper" upper)⟩,
        ⟨RuleName.inputOutputInterlock, .interlock 4 body⟩ ]

/-- The lower rule holds a call of the event inclusion, by way of the upper one. -/
theorem calls_upwards_layered :
    let body : Rule := .relation .first "agent" .equals .second "agent"
    ofDocument layered = .ok layeredRules ∧
      RuleName.inputOutputInterlock ∈ layered.ruleNames ∧
      (∃ entry, layeredRules.rules[9]? = some entry ∧
        Rule.Contains (.named 6 RuleName.eventInclusion body) entry.rule ∧
        6 < 9 ∧ layeredRules.rules[6]? = some (NamedRule.mk RuleName.eventInclusion body)) ∧
      layeredRules.names.count RuleName.inputOutputInterlock = 1 ∧
      ∃ (index : Nat) (rule : Rule), layeredRules.rules[index]? = some ⟨"lower", rule⟩ ∧
        ∀ x y, layeredRules.judge "lower" x y =
          RuleError.within "lower" (rule.eval layeredRules.registry layeredRules.helpers x y) := by
  intro body
  have hrules : ofDocument layered = .ok layeredRules :=
    toOption_eq_some_iff.mp (by decide +kernel)
  obtain ⟨habove, ⟨hcount, _⟩, hjudge⟩ := calls_upwards hrules
  have hcall : Rule.Contains (.named 6 RuleName.eventInclusion body)
      (.loop .any .first "agent" (.named 8 "upper"
        (.negation (.named 6 RuleName.eventInclusion body)))) :=
    .loop _ _ _ (.called _ _ (.negation .self))
  obtain ⟨hlt, hfound⟩ := habove 9 ⟨"lower", _⟩ rfl 6 _ _ hcall
  exact ⟨hrules, by decide, ⟨_, rfl, hcall, hlt, hfound⟩, hcount, hjudge "lower" (by decide)⟩

end RuleSet

end ReqConflict
