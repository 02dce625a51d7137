import Mathlib.Order.Monotone.Defs
import ReqConflict.Proofs.Detection.Failure
import ReqConflict.Proofs.RuleSet.Positions

/-!
# Inserting a rule

A rules document may be given one more rule, under a new name, anywhere among
its rules.  The rules behind the new one move on by one position, the derived
rule among them, and their calls move along.  No rule of the document calls the
new one, and the helpers find the rules that they run by names.  So all that
was judged before is judged as before, with the same errors.
-/

namespace ReqConflict

/-- The document with one more rule behind the first ones. -/
def RulesDocument.insertRule (document : RulesDocument) (place : Nat)
    (key definition : Yaml.Value) : RulesDocument :=
  { document with
    rules := document.rules.take place ++ (key, definition) :: document.rules.drop place }

namespace NamedRule

variable {rules others : List NamedRule} {entry : NamedRule} {f : Nat → Nat} {place : Nat}

def relocate (f : Nat → Nat) (entry : NamedRule) : NamedRule :=
  ⟨entry.name, entry.rule.relocate f⟩

/-- Where a position gets to when a rule is inserted at a place. -/
def shift (place index : Nat) : Nat :=
  if index < place then index else index + 1

theorem find?_concat (name : String) (rules : List NamedRule) (entry : NamedRule) :
    find? name (rules ++ [entry]) =
      if entry.name = name then some (rules.length, entry.rule) else find? name rules := by
  induction rules with
  | nil => simp [find?]
  | cons first rules ih =>
      rw [List.cons_append, find?, ih, find?]
      by_cases hname : entry.name = name
      · simp [hname]
      · simp [hname]

/-- Rules stand among others in their order, and are found there under their
names.  Their calls carry the positions that the called rules have there. -/
structure Embeds (f : Nat → Nat) (rules others : List NamedRule) : Prop where
  increases : StrictMono f
  behind : ∀ count, f (rules.length + count) = others.length + count
  placed : ∀ (index : Nat) (entry : NamedRule), rules[index]? = some entry →
    others[f index]? = some (entry.relocate f)
  found : Rule.FoundAt f rules others

theorem embeds_self (hrules : CallAbove rules) : Embeds id rules rules := by
  have hfixed : ∀ index, index < rules.length → id index = index := fun _ _ => rfl
  constructor
  · exact strictMono_id
  · exact fun _ => rfl
  · intro index entry hentry
    rw [relocate, hrules.relocate_eq_self hfixed index entry hentry]
    exact hentry
  · intro name index rule hfind
    have hsame : rule.relocate id = rule :=
      hrules.relocate_eq_self hfixed index ⟨name, rule⟩ (getElem?_of_find? hfind)
    rw [hsame]
    exact hfind

/-- A rule with a new name hides none of the rules above it. -/
theorem embeds_concat (hrules : CallAbove rules) (hnew : entry.name ∉ rules.map (·.name)) :
    Embeds (shift rules.length) rules (rules ++ [entry]) := by
  have hfixed : ∀ index, index < rules.length → shift rules.length index = index :=
    fun index hlt => if_pos hlt
  constructor
  · intro index other hlt
    unfold shift
    split <;> split <;> omega
  · intro count
    have hbehind : ¬rules.length + count < rules.length := by omega
    rw [shift, if_neg hbehind, List.length_append, List.length_singleton]
    omega
  · intro index other hother
    have hlt : index < rules.length := (List.getElem?_eq_some_iff.mp hother).1
    rw [relocate, hrules.relocate_eq_self hfixed index other hother, hfixed index hlt]
    exact getElem?_concat_iff.mpr (Or.inl hother)
  · intro name index rule hfind
    have hother : rules[index]? = some ⟨name, rule⟩ := getElem?_of_find? hfind
    have hlt : index < rules.length := (List.getElem?_eq_some_iff.mp hother).1
    have hsame : rule.relocate (shift rules.length) = rule :=
      hrules.relocate_eq_self hfixed index ⟨name, rule⟩ hother
    have hname : entry.name ≠ name := by
      intro hname
      exact hnew (hname ▸ List.mem_map_of_mem (List.mem_of_getElem? hother))
    rw [find?_concat, if_neg hname, hsame, hfixed index hlt]
    exact hfind

theorem Embeds.concat (hembeds : Embeds f rules others) (entry : NamedRule) :
    Embeds f (rules ++ [entry]) (others ++ [entry.relocate f]) := by
  have hlast : f rules.length = others.length := hembeds.behind 0
  constructor
  · exact hembeds.increases
  · intro count
    have hbehind := hembeds.behind (1 + count)
    simpa [Nat.add_assoc] using hbehind
  · intro index other hother
    rcases getElem?_concat_iff.mp hother with hother | ⟨rfl, rfl⟩
    · exact getElem?_concat_iff.mpr (Or.inl (hembeds.placed index other hother))
    · exact getElem?_concat_iff.mpr (Or.inr ⟨hlast, rfl⟩)
  · intro name index rule hfind
    rw [find?_concat] at hfind ⊢
    by_cases hname : entry.name = name
    · have hmoved : (entry.relocate f).name = name := hname
      rw [if_pos hname] at hfind
      cases hfind
      rw [if_pos hmoved, hlast]
      rfl
    · have hmoved : (entry.relocate f).name ≠ name := hname
      rw [if_neg hname] at hfind
      rw [if_neg hmoved]
      exact hembeds.found name index rule hfind

end NamedRule

namespace RuleSet

open NamedRule (Embeds CallAbove)

variable {registry : Registry} {above wide defined : List NamedRule} {f : Nat → Nat}
  {definitions : List (Yaml.Value × Yaml.Value)}

/-! ## Compiling -/

theorem compileBelow_append (definitions others : List (Yaml.Value × Yaml.Value)) :
    compileBelow registry above (definitions ++ others) =
      (do compileBelow registry (← compileBelow registry above definitions) others) := by
  induction definitions generalizing above with
  | nil => rfl
  | cons definition definitions ih =>
      obtain ⟨key, value⟩ := definition
      rw [List.cons_append, compileBelow, compileBelow]
      cases key.string? with
      | none => rfl
      | some name =>
          by_cases hname : name = RuleName.inputOutputInterlock
          · simp only [if_pos hname, ih]
          · simp only [if_neg hname, bind_assoc, ih]

/-- A compiled rule has the name of one of the definitions. -/
theorem name_mem_of_compileBelow (hdefined : compileBelow registry above definitions = .ok defined)
    {name : String} (hname : name ∈ defined.map (·.name)) :
    name ∈ above.map (·.name) ∨ name ∈ definitions.filterMap fun entry => entry.1.string? := by
  induction definitions generalizing above with
  | nil =>
      cases hdefined
      exact Or.inl hname
  | cons definition definitions ih =>
      obtain ⟨own, hkey, hbelow⟩ := compileBelow_cons_eq_ok_iff.mp hdefined
      have hnames : (definition :: definitions).filterMap (fun entry => entry.1.string?) =
          own :: definitions.filterMap fun entry => entry.1.string? :=
        List.filterMap_cons_some hkey
      rw [hnames, List.mem_cons]
      rcases hbelow with ⟨_, hdefined⟩ | ⟨_, rule, _, hdefined⟩
      · exact (ih hdefined).imp_right Or.inr
      · rcases ih hdefined with hmem | hmem
        · rw [List.map_append, List.mem_append, List.map_singleton, List.mem_singleton] at hmem
          exact hmem.imp_right Or.inl
        · exact Or.inr (Or.inr hmem)

/-- What compiles below some rules compiles below others that these are among.
The induction is on the definitions: each rule joins both lists. -/
theorem embeds_compileBelow (hembeds : Embeds f above wide)
    (hdefined : compileBelow registry above definitions = .ok defined) :
    ∃ others, compileBelow registry wide definitions = .ok others ∧ Embeds f defined others := by
  induction definitions generalizing above wide with
  | nil =>
      cases hdefined
      exact ⟨wide, rfl, hembeds⟩
  | cons definition definitions ih =>
      obtain ⟨key, value⟩ := definition
      obtain ⟨name, hkey, ⟨hname, hdefined⟩ | ⟨hname, rule, hrule, hdefined⟩⟩ :=
        compileBelow_cons_eq_ok_iff.mp hdefined
      · obtain ⟨others, hothers, hresult⟩ := ih hembeds hdefined
        refine ⟨others, ?_, hresult⟩
        rw [compileBelow_cons_eq_ok_iff]
        exact ⟨name, hkey, Or.inl ⟨hname, hothers⟩⟩
      · have hmoved : Rule.compile ⟨registry, wide, name⟩ value = .ok (rule.relocate f) :=
          Rule.compile_relocate hembeds.found value rule hrule
        obtain ⟨others, hothers, hresult⟩ := ih (hembeds.concat ⟨name, rule⟩) hdefined
        refine ⟨others, ?_, hresult⟩
        rw [compileBelow_cons_eq_ok_iff]
        exact ⟨name, hkey, Or.inr ⟨hname, rule.relocate f, hmoved, hothers⟩⟩

variable {document : RulesDocument} {rules larger : RuleSet} {place : Nat}
  {key definition : Yaml.Value} {name : String}

/-- The rules above the new one are compiled as before.  The new one joins
them, unless its name is that of the derived rule. -/
theorem exists_embeds_of_insert (hkey : key.string? = some name)
    (hnew : name ∉ definitions.filterMap fun entry => entry.1.string?)
    (habove : compileBelow registry [] definitions = .ok above)
    {others : List (Yaml.Value × Yaml.Value)}
    (hwide : compileBelow registry above ((key, definition) :: others) = .ok defined) :
    ∃ f wide, Embeds f above wide ∧ compileBelow registry wide others = .ok defined := by
  have hcalls : CallAbove above := callAbove_compileBelow NamedRule.callAbove_nil habove
  have hfresh : name ∉ above.map (·.name) := by
    intro hmem
    rcases name_mem_of_compileBelow habove hmem with hmem | hmem
    · cases hmem
    · exact hnew hmem
  obtain ⟨own, hown, hwide⟩ := compileBelow_cons_eq_ok_iff.mp hwide
  cases hkey.symm.trans hown
  rcases hwide with ⟨_, hwide⟩ | ⟨_, rule, _, hwide⟩
  · exact ⟨id, above, NamedRule.embeds_self hcalls, hwide⟩
  · exact ⟨NamedRule.shift above.length, above ++ [⟨name, rule⟩],
      NamedRule.embeds_concat hcalls hfresh, hwide⟩

theorem exists_embeds_insertRule (hkey : key.string? = some name)
    (hnew : name ∉ document.ruleNames) (hrules : ofDocument document = .ok rules)
    (hlarger : ofDocument (document.insertRule place key definition) = .ok larger) :
    larger.registry = rules.registry ∧ ∃ f, Embeds f rules.rules larger.rules := by
  obtain ⟨registry, defined, index, inconsistency, hregistry, hdefined, _, hfind, rfl⟩ :=
    exists_of_ofDocument hrules
  obtain ⟨registry', defined', index', inconsistency', hregistry', hdefined', _, hfind', rfl⟩ :=
    exists_of_ofDocument hlarger
  -- the new rule does not take part in the registry
  have hsame : Registry.ofDocument document = .ok registry' := hregistry'
  cases hregistry.symm.trans hsame
  have hsplit : document.rules = document.rules.take place ++ document.rules.drop place :=
    (List.take_append_drop place document.rules).symm
  rw [hsplit, compileBelow_append] at hdefined
  rw [RulesDocument.insertRule, compileBelow_append] at hdefined'
  obtain ⟨above, habove, hdefined⟩ := bind_eq_ok_iff.mp hdefined
  obtain ⟨above', habove', hdefined'⟩ := bind_eq_ok_iff.mp hdefined'
  cases habove.symm.trans habove'
  have hnames : ((document.rules.take place).filterMap fun entry => entry.1.string?).Sublist
      document.ruleNames := (List.take_sublist place document.rules).filterMap _
  have hfresh : name ∉ (document.rules.take place).filterMap fun entry => entry.1.string? := by
    intro hmem
    exact hnew (hnames.subset hmem)
  obtain ⟨f, wide, hembeds, hwide⟩ := exists_embeds_of_insert hkey hfresh habove hdefined'
  obtain ⟨others, hothers, hembeds⟩ := embeds_compileBelow hembeds hdefined
  cases hothers.symm.trans hwide
  cases (hembeds.found _ _ _ hfind).symm.trans hfind'
  exact ⟨rfl, f, hembeds.concat _⟩

/-! ## Judging -/

variable {f : Nat → Nat} (hregistry : larger.registry = rules.registry)
  (hembeds : Embeds f rules.rules larger.rules)

include hregistry hembeds

theorem judgeWith_of_embeds {name : String} (hname : name ∈ rules.names) (helpers : Helpers)
    (x y : Subject) : larger.judgeWith helpers name x y = rules.judgeWith helpers name x y := by
  obtain ⟨index, rule, hfind⟩ := exists_find? hname
  have hmoved : larger.find? name = some (f index, rule.relocate f) :=
    hembeds.found name index rule hfind
  simp only [judgeWith, hfind, hmoved, hregistry, Rule.eval_relocate]

theorem helpersTo_of_embeds (hrules : rules.IsCompiled) (depth : Nat) :
    larger.helpersTo depth = rules.helpersTo depth := by
  induction depth with
  | zero => rfl
  | succ depth ih =>
      have hinclude : RuleName.conditionInclude ∈ rules.names :=
        hrules.required _ (by simp [RuleName.required])
      have hcontradict : RuleName.conditionContradict ∈ rules.names :=
        hrules.required _ (by simp [RuleName.required])
      have hsets : larger.conditionSetInclude (rules.helpersTo depth) =
          rules.conditionSetInclude (rules.helpersTo depth) := by
        funext a b
        simp only [conditionSetInclude, judgeConditions,
          judgeWith_of_embeds hregistry hembeds hinclude]
      have hpairs : larger.conditionContradict (rules.helpersTo depth) =
          rules.conditionContradict (rules.helpersTo depth) := by
        funext conditions
        simp only [conditionContradict, judgeConditions,
          judgeWith_of_embeds hregistry hembeds hcontradict]
      rw [helpersTo, helpersTo, ih, hregistry, hsets, hpairs]

theorem judge_of_embeds (hrules : rules.IsCompiled) {name : String} (hname : name ∈ rules.names)
    (x y : Subject) : larger.judge name x y = rules.judge name x y := by
  rw [judge, judge, helpers, helpers, helpersTo_of_embeds hregistry hembeds hrules,
    judgeWith_of_embeds hregistry hembeds hname]

omit hregistry hembeds

/-- One more rule in a document leaves all others as they are, wherever it is
inserted.  In both rule sets every call runs the rule at its position; the
rules of the smaller one stand in the larger one in their order, and call each
other at their new positions.  Whatever is judged by one of them is judged the
same, and so detection has the same result. -/
theorem judge_insertRule (hkey : key.string? = some name) (hnew : name ∉ document.ruleNames)
    (hrules : ofDocument document = .ok rules)
    (hlarger : ofDocument (document.insertRule place key definition) = .ok larger) :
    (CallAbove rules.rules ∧ CallAbove larger.rules ∧
      ∃ f, StrictMono f ∧ ∀ (index : Nat) (entry : NamedRule), rules.rules[index]? = some entry →
        larger.rules[f index]? = some (entry.relocate f)) ∧
    (∀ other ∈ rules.names, ∀ x y, larger.judge other x y = rules.judge other x y) ∧
    ∀ requirements, larger.detect requirements = rules.detect requirements := by
  have hcompiled := isCompiled_ofDocument hrules
  obtain ⟨hregistry, f, hembeds⟩ := exists_embeds_insertRule hkey hnew hrules hlarger
  have hjudge : ∀ other ∈ rules.names, ∀ x y,
      larger.judge other x y = rules.judge other x y :=
    fun other hother x y => judge_of_embeds hregistry hembeds hcompiled hother x y
  refine ⟨⟨callAbove_ofDocument hrules, callAbove_ofDocument hlarger, f, hembeds.increases,
    hembeds.placed⟩, hjudge, ?_⟩
  apply detect_congr
  intro kind x y
  exact hjudge _ (ruleName_mem_names hcompiled kind) _ _

/-- The comparison of agents is undecided, and every rule but the first calls
the one above it. -/
def chained : RulesDocument :=
  { undecided with
    rules :=
      (.string RuleName.conditionInclude, .string "1 agent equal 2 agent") ::
        List.zipWith
          (fun above name => (.string name, .mapping [(.string "function", .string above)]))
          RuleName.required RuleName.required.tail }

/-- A new rule in the second place, which all but the first have to make room
for. -/
theorem judge_insertRule_chained :
    ∃ rules larger, ofDocument chained = .ok rules ∧
      ofDocument (chained.insertRule 1 (.string "probe") (.string "2 agent equal 1 agent")) =
        .ok larger ∧
      "probe" ∉ chained.ruleNames ∧ RuleName.eventInclusion ∈ rules.names ∧
      larger.judge RuleName.eventInclusion default default =
        rules.judge RuleName.eventInclusion default default ∧
      larger.detect [default, default] = rules.detect [default, default] := by
  obtain ⟨rules, hrules⟩ : ∃ rules, (ofDocument chained).toOption = some rules :=
    Option.isSome_iff_exists.mp (by decide +kernel)
  obtain ⟨larger, hlarger⟩ : ∃ larger, (ofDocument (chained.insertRule 1 (.string "probe")
      (.string "2 agent equal 1 agent"))).toOption = some larger :=
    Option.isSome_iff_exists.mp (by decide +kernel)
  rw [toOption_eq_some_iff] at hrules hlarger
  have hnew : "probe" ∉ chained.ruleNames := by decide +kernel
  have hname : RuleName.eventInclusion ∈ rules.names :=
    (isCompiled_ofDocument hrules).required _ (by decide)
  obtain ⟨_, hjudge, hdetect⟩ := judge_insertRule rfl hnew hrules hlarger
  exact ⟨rules, larger, hrules, hlarger, hnew, hname, hjudge _ hname _ _, hdetect _⟩

end RuleSet

end ReqConflict
