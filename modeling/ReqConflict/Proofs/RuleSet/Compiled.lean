import ReqConflict.Conflict
import ReqConflict.Proofs.Rule.Compile
import ReqConflict.Proofs.Rule.Requests
import ReqConflict.RuleSet

/-!
# What compiling guarantees

Of a rule set that a document compiles to, every relation has been checked
against a complete registry, and the rules that are called by name are there.
-/

namespace ReqConflict

theorem NamedRule.getElem?_of_find? {name : String} {rules : List NamedRule} {index : Nat}
    {rule : Rule} (hfind : find? name rules = some (index, rule)) :
    rules[index]? = some ⟨name, rule⟩ := by
  induction rules generalizing index with
  | nil => simp [find?] at hfind
  | cons entry rules ih =>
      rw [find?] at hfind
      split at hfind
      · rename_i below found hfound
        cases hfind
        exact ih hfound
      · split at hfind
        · rename_i hname
          cases hfind
          rw [← hname]
          rfl
        · cases hfind

theorem NamedRule.exists_of_find? {name : String} {rules : List NamedRule} {index : Nat}
    {rule : Rule} (hfind : find? name rules = some (index, rule)) :
    ∃ entry ∈ rules, entry.name = name ∧ entry.rule = rule := by
  have hget : rules[index]? = some ⟨name, rule⟩ := getElem?_of_find? hfind
  exact ⟨⟨name, rule⟩, List.mem_of_getElem? hget, rfl, rfl⟩

theorem NamedRule.isSome_find?_iff {name : String} {rules : List NamedRule} :
    (find? name rules).isSome = true ↔ name ∈ rules.map (·.name) := by
  induction rules with
  | nil => simp [find?]
  | cons entry rules ih =>
      rw [List.map_cons, List.mem_cons, ← ih, find?]
      split
      · rename_i hfound
        simp [hfound]
      · rename_i hnone
        by_cases hname : entry.name = name <;> simp [hnone, hname, eq_comm (a := name)]

namespace Rule

variable {context : Context}

theorem isCheckedEach_iff {registry : Registry} {items : List Rule} :
    IsCheckedEach registry items ↔ ∀ item ∈ items, item.IsChecked registry := by
  induction items with
  | nil => simp [IsCheckedEach]
  | cons item items ih => simp [IsCheckedEach, ih]

theorem closes_isChecked
    (habove : ∀ entry ∈ context.above, entry.rule.IsChecked context.registry) :
    context.Closes (IsChecked context.registry) where
  relation := by
    intro text rule hrule
    obtain ⟨left, field1, name, right, field2, type, _, hcheck, rfl⟩ := exists_of_relation hrule
    exact ⟨type, hcheck⟩
  call := by
    intro content rule hrule
    obtain ⟨name, index, body, _, hfind, rfl⟩ := call_eq_ok_iff.mp hrule
    obtain ⟨entry, hentry, _, hbody⟩ := NamedRule.exists_of_find? hfind
    exact hbody ▸ habove entry hentry
  negation := fun _ hbody => hbody
  conjunction := fun _ _ hitems => isCheckedEach_iff.mpr hitems
  disjunction := fun _ _ hitems => isCheckedEach_iff.mpr hitems
  loop := fun _ _ _ _ _ _ hbody => hbody

end Rule

namespace Registry

theorem isComplete_ofDocument {document : RulesDocument} {registry : Registry}
    (hregistry : ofDocument document = .ok registry) : registry.IsComplete := by
  obtain ⟨permitted, _, hregistry⟩ := bind_eq_ok_iff.mp hregistry
  obtain ⟨comparisons, _, hregistry⟩ := bind_eq_ok_iff.mp hregistry
  obtain ⟨_, hfound, hregistry⟩ := bind_eq_ok_iff.mp hregistry
  cases hregistry
  intro pair hpair
  have hpassed := forM_eq_ok_iff.mp hfound pair hpair
  obtain ⟨comparison, hcomparison, _⟩ := bind_eq_ok_iff.mp hpassed
  exact ⟨comparison, hcomparison⟩

end Registry

namespace RuleSet

/-- What a rule set that a document compiles to is sure of. -/
structure IsCompiled (rules : RuleSet) : Prop where
  complete : rules.registry.IsComplete
  checked : ∀ entry ∈ rules.rules, entry.rule.IsChecked rules.registry
  required : ∀ name ∈ RuleName.required, name ∈ rules.names
  derived : RuleName.inputOutputInterlock ∈ rules.names

theorem exists_find? {rules : RuleSet} {name : String} (hname : name ∈ rules.names) :
    ∃ index rule, rules.find? name = some (index, rule) := by
  have hsome : (rules.find? name).isSome = true := NamedRule.isSome_find?_iff.mpr hname
  obtain ⟨⟨index, rule⟩, hfind⟩ := Option.isSome_iff_exists.mp hsome
  exact ⟨index, rule, hfind⟩

theorem ruleName_mem_names {rules : RuleSet} (hrules : rules.IsCompiled) (kind : ConflictKind) :
    kind.ruleName ∈ rules.names := by
  cases kind with
  | inputOutputInterlock => exact hrules.derived
  | _ => exact hrules.required _ (by simp [RuleName.required, ConflictKind.ruleName])

theorem inRule_eq_ok_iff {α : Type} {name : String} {result : Except RuleError α} {value : α} :
    inRule name result = .ok value ↔ result = .ok value := by
  cases result with
  | ok found => simp [inRule, RuleError.within]
  | error error => cases error <;> simp [inRule, RuleError.within]

/-- A definition under the name of the derived rule is passed over.  Any other
one is compiled below the rules above it and joins them. -/
theorem compileBelow_cons_eq_ok_iff {registry : Registry} {above rules : List NamedRule}
    {key value : Yaml.Value} {definitions : List (Yaml.Value × Yaml.Value)} :
    compileBelow registry above ((key, value) :: definitions) = .ok rules ↔
      ∃ name, key.string? = some name ∧
        (name = RuleName.inputOutputInterlock ∧
            compileBelow registry above definitions = .ok rules ∨
          name ≠ RuleName.inputOutputInterlock ∧
            ∃ rule, Rule.compile ⟨registry, above, name⟩ value = .ok rule ∧
              compileBelow registry (above ++ [⟨name, rule⟩]) definitions = .ok rules) := by
  rw [compileBelow]
  cases hkey : key.string? with
  | none => simp
  | some name =>
      by_cases hname : name = RuleName.inputOutputInterlock
      · simp [hname]
      · simp [hname, bind_eq_ok_iff, inRule_eq_ok_iff]

theorem isChecked_compileBelow {registry : Registry} {above rules : List NamedRule}
    {definitions : List (Yaml.Value × Yaml.Value)}
    (habove : ∀ entry ∈ above, entry.rule.IsChecked registry)
    (hrules : compileBelow registry above definitions = .ok rules) :
    ∀ entry ∈ rules, entry.rule.IsChecked registry := by
  induction definitions generalizing above with
  | nil =>
      cases hrules
      exact habove
  | cons definition definitions ih =>
      obtain ⟨name, _, ⟨_, hrules⟩ | ⟨_, rule, hrule, hrules⟩⟩ :=
        compileBelow_cons_eq_ok_iff.mp hrules
      · exact ih habove hrules
      · apply ih _ hrules
        intro entry hentry
        rcases List.mem_append.mp hentry with hentry | hentry
        · exact habove entry hentry
        · rw [List.mem_singleton.mp hentry]
          exact (Rule.closes_isChecked habove).compile definition.2 rule hrule

/-- What a document that compiles is made into. -/
theorem exists_of_ofDocument {document : RulesDocument} {rules : RuleSet}
    (hrules : ofDocument document = .ok rules) :
    ∃ registry defined index inconsistency,
      Registry.ofDocument document = .ok registry ∧
      compileBelow registry [] document.rules = .ok defined ∧
      (∀ name ∈ RuleName.required, name ∈ defined.map (·.name)) ∧
      NamedRule.find? RuleName.eventInconsistency defined = some (index, inconsistency) ∧
      rules = ⟨registry,
        defined ++ [⟨RuleName.inputOutputInterlock, .interlock index inconsistency⟩]⟩ := by
  obtain ⟨registry, hregistry, hrules⟩ := bind_eq_ok_iff.mp hrules
  obtain ⟨defined, hdefined, hrules⟩ := bind_eq_ok_iff.mp hrules
  obtain ⟨_, hrequired, hrules⟩ := bind_eq_ok_iff.mp hrules
  cases hfind : NamedRule.find? RuleName.eventInconsistency defined with
  | none => simp [hfind, throw, throwThe, MonadExceptOf.throw] at hrules
  | some found =>
      obtain ⟨index, inconsistency⟩ := found
      simp only [hfind] at hrules
      cases hrules
      refine ⟨registry, defined, index, inconsistency, hregistry, hdefined, ?_, hfind, rfl⟩
      intro name hname
      have hstep := forM_eq_ok_iff.mp hrequired name hname
      split at hstep
      · rename_i hsome
        exact NamedRule.isSome_find?_iff.mp hsome
      · cases hstep

theorem isCompiled_ofDocument {document : RulesDocument} {rules : RuleSet}
    (hrules : ofDocument document = .ok rules) : rules.IsCompiled := by
  obtain ⟨registry, defined, index, inconsistency, hregistry, hdefined, hrequired, hfind, rfl⟩ :=
    exists_of_ofDocument hrules
  have hchecked : ∀ entry ∈ defined, entry.rule.IsChecked registry :=
    isChecked_compileBelow (by simp) hdefined
  obtain ⟨entry, hentry, _, hbody⟩ := NamedRule.exists_of_find? hfind
  refine ⟨Registry.isComplete_ofDocument hregistry, ?_, ?_, ?_⟩
  · intro other hother
    rcases List.mem_append.mp hother with hother | hother
    · exact hchecked other hother
    · rw [List.mem_singleton.mp hother]
      exact hbody ▸ hchecked entry hentry
  · intro name hname
    rw [names, List.map_append]
    exact List.mem_append_left _ (hrequired name hname)
  · rw [names, List.map_append]
    exact List.mem_append_right _ (List.mem_singleton_self _)

end RuleSet

end ReqConflict
