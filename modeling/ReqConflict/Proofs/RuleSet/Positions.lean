import ReqConflict.Proofs.Rule.Truth
import ReqConflict.Proofs.RuleSet.Compiled

/-!
# Positions of called rules

A call carries the position of the rule that it runs, and the rule itself.
The two agree in every rule set that a document compiles to: the rule is the
one that stands at the position, which lies above the caller.

If a definition is compiled where the same rules are found at other positions,
the calls in it carry those positions, and nothing else changes.  Judging a
rule does not depend on where the rules that it calls stand.
-/

namespace ReqConflict

namespace Rule

mutual

/-- Every call in the rule runs the rule that stands at its position. -/
def CallsIn (rules : List NamedRule) : Rule → Prop
  | relation .. => True
  | negation body | loop _ _ _ body => CallsIn rules body
  | conjunction items | disjunction items => CallsInEach rules items
  | named index name body => rules[index]? = some ⟨name, body⟩
  | interlock index inconsistency =>
      rules[index]? = some ⟨RuleName.eventInconsistency, inconsistency⟩

def CallsInEach (rules : List NamedRule) : List Rule → Prop
  | [] => True
  | item :: items => CallsIn rules item ∧ CallsInEach rules items

end

theorem callsInEach_iff {rules : List NamedRule} {items : List Rule} :
    CallsInEach rules items ↔ ∀ item ∈ items, item.CallsIn rules := by
  induction items with
  | nil => simp [CallsInEach]
  | cons item items ih => simp [CallsInEach, ih]

theorem closes_callsIn (context : Context) : context.Closes (CallsIn context.above) where
  relation := by
    intro text rule hrule
    obtain ⟨left, field1, name, right, field2, type, _, _, rfl⟩ := exists_of_relation hrule
    trivial
  call := by
    intro content rule hrule
    obtain ⟨name, index, body, _, hfind, rfl⟩ := call_eq_ok_iff.mp hrule
    exact NamedRule.getElem?_of_find? hfind
  negation := fun _ hbody => hbody
  conjunction := fun _ _ hitems => callsInEach_iff.mpr hitems
  disjunction := fun _ _ hitems => callsInEach_iff.mpr hitems
  loop := fun _ _ _ _ _ _ hbody => hbody

/-! ## Moving calls -/

mutual

/-- The rule with its calls at other positions. -/
def relocate (f : Nat → Nat) : Rule → Rule
  | relation left field1 name right field2 => relation left field1 name right field2
  | negation body => negation (relocate f body)
  | conjunction items => conjunction (relocateEach f items)
  | disjunction items => disjunction (relocateEach f items)
  | named index name body => named (f index) name (relocate f body)
  | loop quantifier owner field body => loop quantifier owner field (relocate f body)
  | interlock index inconsistency => interlock (f index) (relocate f inconsistency)

def relocateEach (f : Nat → Nat) : List Rule → List Rule
  | [] => []
  | item :: items => relocate f item :: relocateEach f items

end

variable {f : Nat → Nat} {registry : Registry} {helpers : Helpers}
  {rules others : List NamedRule} {name : String}

mutual

theorem eval_relocate : ∀ (rule : Rule) (x y : Subject),
    (relocate f rule).eval registry helpers x y = rule.eval registry helpers x y
  | relation .., _, _ => rfl
  | negation body, x, y => by
      rw [relocate, eval_negation, eval_negation, eval_relocate body]
  | conjunction items, x, y => by
      rw [relocate, eval_conjunction, eval_conjunction, evalAll_relocateEach items]
  | disjunction items, x, y => by
      rw [relocate, eval_disjunction, eval_disjunction, evalAny_relocateEach items]
  | named index name body, x, y => by
      rw [relocate, eval_named, eval_named, eval_relocate body]
  | loop quantifier .first field body, x, y => by
      simp only [relocate, eval_loop_first, eval_relocate body]
  | loop quantifier .second field body, x, y => by
      simp only [relocate, eval_loop_second, eval_relocate body]
  | interlock index inconsistency, x, y => by
      simp only [relocate, eval_interlock, eval_relocate inconsistency]

theorem evalAll_relocateEach : ∀ (items : List Rule) (x y : Subject),
    evalAll registry helpers (relocateEach f items) x y = evalAll registry helpers items x y
  | [], _, _ => rfl
  | item :: items, x, y => by
      rw [relocateEach, evalAll_cons, evalAll_cons, eval_relocate item, evalAll_relocateEach items]

theorem evalAny_relocateEach : ∀ (items : List Rule) (x y : Subject),
    evalAny registry helpers (relocateEach f items) x y = evalAny registry helpers items x y
  | [], _, _ => rfl
  | item :: items, x, y => by
      rw [relocateEach, evalAny_cons, evalAny_cons, eval_relocate item, evalAny_relocateEach items]

end

/-- The called rules stay where they are, and so do the calls in them. -/
def IsFixed (f : Nat → Nat) (rules : List NamedRule) : Prop :=
  ∀ (index : Nat) (entry : NamedRule), rules[index]? = some entry →
    f index = index ∧ entry.rule.relocate f = entry.rule

mutual

theorem relocate_eq_self (hfixed : IsFixed f rules) :
    ∀ rule : Rule, rule.CallsIn rules → rule.relocate f = rule
  | relation .., _ => rfl
  | negation body, hcalls => by
      rw [relocate, relocate_eq_self hfixed body hcalls]
  | conjunction items, hcalls | disjunction items, hcalls => by
      rw [relocate, relocateEach_eq_self hfixed items hcalls]
  | named index name body, hcalls | interlock index body, hcalls => by
      obtain ⟨hindex, hbody⟩ := hfixed index _ hcalls
      rw [relocate, hindex, hbody]
  | loop quantifier owner field body, hcalls => by
      rw [relocate, relocate_eq_self hfixed body hcalls]

theorem relocateEach_eq_self (hfixed : IsFixed f rules) :
    ∀ items : List Rule, CallsInEach rules items → relocateEach f items = items
  | [], _ => rfl
  | item :: items, hcalls => by
      rw [relocateEach, relocate_eq_self hfixed item hcalls.1,
        relocateEach_eq_self hfixed items hcalls.2]

end

/-! ## Compiling below other rules -/

/-- The rules that are found among some rules are found among others, at other
positions. -/
def FoundAt (f : Nat → Nat) (rules others : List NamedRule) : Prop :=
  ∀ name index rule, NamedRule.find? name rules = some (index, rule) →
    NamedRule.find? name others = some (f index, rule.relocate f)

theorem relation_relocate {text : String} {rule : Rule}
    (hrule : (Context.mk registry rules name).relation text = .ok rule) :
    (Context.mk registry others name).relation text = .ok (rule.relocate f) := by
  have hsame : (Context.mk registry others name).relation text = .ok rule := hrule
  obtain ⟨left, field1, relation, right, field2, type, _, _, rfl⟩ := exists_of_relation hrule
  exact hsame

theorem call_relocate (hfound : FoundAt f rules others) {content : Yaml.Value} {rule : Rule}
    (hrule : (Context.mk registry rules name).call content = .ok rule) :
    (Context.mk registry others name).call content = .ok (rule.relocate f) := by
  obtain ⟨called, index, body, hcontent, hfind, rfl⟩ := call_eq_ok_iff.mp hrule
  exact call_eq_ok_iff.mpr
    ⟨called, f index, body.relocate f, hcontent, hfound called index body hfind, rfl⟩

mutual

theorem compile_relocate (hfound : FoundAt f rules others) :
    ∀ (value : Yaml.Value) (rule : Rule),
      compile ⟨registry, rules, name⟩ value = .ok rule →
        compile ⟨registry, others, name⟩ value = .ok (rule.relocate f)
  | .string text, rule, hrule => relation_relocate hrule
  | .mapping [(label, content)], rule, hrule => by
      rw [compile] at hrule ⊢
      split at hrule
      · obtain ⟨items, hitems, hrule⟩ := bind_eq_ok_iff.mp hrule
        cases hrule
        rw [compileList_relocate hfound "and" content items hitems]
        rfl
      · obtain ⟨items, hitems, hrule⟩ := bind_eq_ok_iff.mp hrule
        cases hrule
        rw [compileList_relocate hfound "or" content items hitems]
        rfl
      · obtain ⟨body, hbody, hrule⟩ := bind_eq_ok_iff.mp hrule
        cases hrule
        rw [compile_relocate hfound content body hbody]
        rfl
      · exact call_relocate hfound hrule
      · exact compileLoop_relocate hfound content rule hrule
      · cases hrule
      · cases hrule
  | .mapping [], _, hrule | .mapping (_ :: _ :: _), _, hrule => by cases hrule
  | .null, _, hrule | .bool _, _, hrule | .number _, _, hrule | .sequence _, _, hrule
  | .tagged .., _, hrule => by cases hrule

theorem compileList_relocate (hfound : FoundAt f rules others) (label : String) :
    ∀ (value : Yaml.Value) (items : List Rule),
      compileList ⟨registry, rules, name⟩ label value = .ok items →
        compileList ⟨registry, others, name⟩ label value = .ok (relocateEach f items)
  | .sequence (value :: values), items, hitems => by
      obtain ⟨rule, hrule, hitems⟩ := bind_eq_ok_iff.mp hitems
      obtain ⟨rules, hrules, hitems⟩ := bind_eq_ok_iff.mp hitems
      cases hitems
      rw [compileList, compile_relocate hfound value rule hrule,
        compileEach_relocate hfound values rules hrules]
      rfl
  | .tagged _ value, items, hitems => compileList_relocate hfound label value items hitems
  | .sequence [], _, hitems | .null, _, hitems | .bool _, _, hitems | .number _, _, hitems
  | .string _, _, hitems | .mapping _, _, hitems => by cases hitems

theorem compileEach_relocate (hfound : FoundAt f rules others) :
    ∀ (values : List Yaml.Value) (items : List Rule),
      compileEach ⟨registry, rules, name⟩ values = .ok items →
        compileEach ⟨registry, others, name⟩ values = .ok (relocateEach f items)
  | [], items, hitems => by
      cases hitems
      rfl
  | value :: values, items, hitems => by
      obtain ⟨rule, hrule, hitems⟩ := bind_eq_ok_iff.mp hitems
      obtain ⟨rules, hrules, hitems⟩ := bind_eq_ok_iff.mp hitems
      cases hitems
      rw [compileEach, compile_relocate hfound value rule hrule,
        compileEach_relocate hfound values rules hrules]
      rfl

theorem compileLoop_relocate (hfound : FoundAt f rules others) :
    ∀ (value : Yaml.Value) (rule : Rule),
      compileLoop ⟨registry, rules, name⟩ value = .ok rule →
        compileLoop ⟨registry, others, name⟩ value = .ok (rule.relocate f)
  | .mapping entries, rule, hrule => by
      obtain ⟨⟨quantifier, owner, field⟩, hhead, hrule⟩ := bind_eq_ok_iff.mp hrule
      obtain ⟨body, hbody, hrule⟩ := bind_eq_ok_iff.mp hrule
      cases hrule
      -- what a loop goes through does not depend on the rules above
      have hsame : (Context.mk registry others name).loopHead entries =
          .ok (quantifier, owner, field) := hhead
      rw [compileLoop, hsame]
      simp only [bind, Except.bind, compileCondition_relocate hfound entries body hbody]
      rfl
  | .tagged _ value, rule, hrule => compileLoop_relocate hfound value rule hrule
  | .null, _, hrule | .bool _, _, hrule | .number _, _, hrule | .string _, _, hrule
  | .sequence _, _, hrule => by cases hrule

theorem compileCondition_relocate (hfound : FoundAt f rules others) :
    ∀ (entries : List (Yaml.Value × Yaml.Value)) (rule : Rule),
      compileCondition ⟨registry, rules, name⟩ entries = .ok rule →
        compileCondition ⟨registry, others, name⟩ entries = .ok (rule.relocate f)
  | [], _, hrule => by cases hrule
  | (key, value) :: entries, rule, hrule => by
      rw [compileCondition] at hrule ⊢
      by_cases hkey : key.same (.string "condition") = true
      · rw [if_pos hkey] at hrule ⊢
        exact compile_relocate hfound value rule hrule
      · rw [if_neg hkey] at hrule ⊢
        exact compileCondition_relocate hfound entries rule hrule

end

end Rule

namespace NamedRule

variable {rules : List NamedRule} {entry other : NamedRule} {index : Nat} {f : Nat → Nat}

/-- The calls in every rule are of rules above it. -/
def CallAbove (rules : List NamedRule) : Prop :=
  ∀ (index : Nat) (entry : NamedRule), rules[index]? = some entry →
    entry.rule.CallsIn (rules.take index)

theorem getElem?_concat_iff :
    (rules ++ [entry])[index]? = some other ↔
      rules[index]? = some other ∨ index = rules.length ∧ entry = other := by
  rcases Nat.lt_trichotomy index rules.length with hlt | rfl | hlt
  · rw [List.getElem?_append_left hlt]
    simp [Nat.ne_of_lt hlt]
  · simp
  · have hlength : (rules ++ [entry]).length ≤ index := by
      simp only [List.length_append, List.length_singleton]
      omega
    rw [List.getElem?_eq_none hlength, List.getElem?_eq_none (Nat.le_of_lt hlt)]
    simp [Nat.ne_of_gt hlt]

theorem callAbove_nil : CallAbove [] := by
  intro index entry hentry
  cases hentry

theorem CallAbove.concat (hrules : CallAbove rules) (hentry : entry.rule.CallsIn rules) :
    CallAbove (rules ++ [entry]) := by
  intro index other hother
  rcases getElem?_concat_iff.mp hother with hother | ⟨rfl, rfl⟩
  · have hle : index ≤ rules.length := Nat.le_of_lt (List.getElem?_eq_some_iff.mp hother).1
    rw [List.take_append_of_le_length hle]
    exact hrules index other hother
  · rw [List.take_left]
    exact hentry

/-- If no position changes, no rule does. -/
theorem CallAbove.relocate_eq_self (hrules : CallAbove rules)
    (hf : ∀ index, index < rules.length → f index = index) (index : Nat) (entry : NamedRule)
    (hentry : rules[index]? = some entry) : entry.rule.relocate f = entry.rule := by
  -- by induction on the position: the rules that are called stand above
  induction index using Nat.strongRecOn generalizing entry with
  | ind index ih =>
      apply Rule.relocate_eq_self _ entry.rule (hrules index entry hentry)
      intro place above habove
      rw [List.getElem?_take] at habove
      by_cases hlt : place < index
      · rw [if_pos hlt] at habove
        exact ⟨hf place (List.getElem?_eq_some_iff.mp habove).1, ih place hlt above habove⟩
      · rw [if_neg hlt] at habove
        cases habove

end NamedRule

namespace RuleSet

theorem callAbove_compileBelow {registry : Registry} {above rules : List NamedRule}
    {definitions : List (Yaml.Value × Yaml.Value)} (habove : NamedRule.CallAbove above)
    (hrules : compileBelow registry above definitions = .ok rules) :
    NamedRule.CallAbove rules := by
  induction definitions generalizing above with
  | nil =>
      cases hrules
      exact habove
  | cons definition definitions ih =>
      obtain ⟨name, _, ⟨_, hrules⟩ | ⟨_, rule, hrule, hrules⟩⟩ :=
        compileBelow_cons_eq_ok_iff.mp hrules
      · exact ih habove hrules
      · have hcalls := (Rule.closes_callsIn ⟨registry, above, name⟩).compile definition.2 rule hrule
        exact ih (habove.concat hcalls) hrules

/-- In a compiled rule set every call runs the rule at the position that it
carries, which is above the rule that the call is in. -/
theorem callAbove_ofDocument {document : RulesDocument} {rules : RuleSet}
    (hrules : ofDocument document = .ok rules) : NamedRule.CallAbove rules.rules := by
  obtain ⟨registry, defined, index, inconsistency, _, hdefined, _, hfind, rfl⟩ :=
    exists_of_ofDocument hrules
  exact (callAbove_compileBelow NamedRule.callAbove_nil hdefined).concat
    (NamedRule.getElem?_of_find? hfind)

end RuleSet

end ReqConflict
