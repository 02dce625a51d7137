import ReqConflict.Proofs.Outcome
import ReqConflict.Rule.Compile

/-!
# What compiling can make of a definition

A definition that compiles is a relation between fields, a call of a rule that
is found above, or made of definitions that compile.  A property of rules that
passes through these forms therefore holds of every rule that is compiled.
-/

namespace ReqConflict

namespace Side

def index : Side → String
  | first => "1"
  | second => "2"

theorem ofIndex?_eq_some_iff {text : String} {side : Side} :
    ofIndex? text = some side ↔ text = side.index := by
  constructor
  · intro hside
    rw [ofIndex?] at hside
    by_cases hone : text = "1"
    · rw [if_pos hone] at hside
      cases hside
      exact hone
    · by_cases htwo : text = "2"
      · rw [if_neg hone, if_pos htwo] at hside
        cases hside
        exact htwo
      · rw [if_neg hone, if_neg htwo] at hside
        cases hside
  · rintro rfl
    cases side <;> rfl

end Side

theorem Relation.ofName?_eq_some_iff {text : String} {relation : Relation} :
    Relation.ofName? text = some relation ↔ text = relation.name := by
  constructor
  · intro hfound
    have hname := List.find?_some (p := fun known : Relation => known.name == text) hfound
    exact (eq_of_beq hname).symm
  · rintro rfl
    cases relation <;> decide

namespace Rule

variable {context : Context} {rule : Rule}

theorem orFlaw_eq_ok_iff {α : Type} {flaw : RuleFlaw} {found : Option α} {value : α} :
    context.orFlaw flaw found = .ok value ↔ found = some value := by
  cases found <;> simp [Context.orFlaw, Context.flaw]

theorem readRelation_eq_ok_iff {text : String} {relation : Relation} :
    Registry.readRelation text = .ok relation ↔ text = relation.name := by
  rw [← Relation.ofName?_eq_some_iff, Registry.readRelation]
  cases Relation.ofName? text <;> simp

theorem exists_of_relation {text : String} (hrule : context.relation text = .ok rule) :
    ∃ left field1 name right field2 type,
      (Text.words text.toList).map String.ofList =
          [left.index, field1, name.name, right.index, field2] ∧
        context.registry.check field1 name field2 = .ok type ∧
        rule = relation left field1 name right field2 := by
  unfold Context.relation at hrule
  split at hrule
  · rename_i index1 field1 name index2 field2 htexts
    obtain ⟨left, hleft, hrule⟩ := bind_eq_ok_iff.mp hrule
    obtain ⟨right, hright, hrule⟩ := bind_eq_ok_iff.mp hrule
    obtain ⟨relation, hrelation, hrule⟩ := bind_eq_ok_iff.mp hrule
    obtain ⟨type, hcheck, hrule⟩ := bind_eq_ok_iff.mp hrule
    cases hrule
    rw [orFlaw_eq_ok_iff, Side.ofIndex?_eq_some_iff] at hleft hright
    rw [readRelation_eq_ok_iff] at hrelation
    subst hleft hright hrelation
    exact ⟨left, field1, relation, right, field2, type, htexts, hcheck, rfl⟩
  · cases hrule

theorem call_eq_ok_iff {content : Yaml.Value} :
    context.call content = .ok rule ↔ ∃ name index body, content.string? = some name ∧
      NamedRule.find? name context.above = some (index, body) ∧ rule = named index name body := by
  constructor
  · intro hrule
    obtain ⟨name, hname, hrule⟩ := bind_eq_ok_iff.mp hrule
    cases hfind : NamedRule.find? name context.above with
    | none => simp [hfind, throw, throwThe, MonadExceptOf.throw] at hrule
    | some found =>
        obtain ⟨index, body⟩ := found
        simp only [hfind] at hrule
        cases hrule
        exact ⟨name, index, body, orFlaw_eq_ok_iff.mp hname, hfind, rfl⟩
  · rintro ⟨name, index, body, hname, hfind, rfl⟩
    simp only [Context.call, orFlaw_eq_ok_iff.mpr hname, hfind, bind, Except.bind]
    rfl

/-- A property of the relations and calls that compile in a context, which
passes from the parts of a rule to the rule. -/
structure Context.Closes (context : Context) (holds : Rule → Prop) : Prop where
  relation : ∀ text rule, context.relation text = .ok rule → holds rule
  call : ∀ content rule, context.call content = .ok rule → holds rule
  negation : ∀ body, holds body → holds (.negation body)
  conjunction : ∀ items, items ≠ [] → (∀ item ∈ items, holds item) → holds (.conjunction items)
  disjunction : ∀ items, items ≠ [] → (∀ item ∈ items, holds item) → holds (.disjunction items)
  loop : ∀ entries quantifier owner field body,
    context.loopHead entries = .ok (quantifier, owner, field) → holds body →
      holds (.loop quantifier owner field body)

namespace Context.Closes

variable {holds : Rule → Prop}

mutual

theorem compile (hholds : context.Closes holds) :
    ∀ (value : Yaml.Value) (rule : Rule), Rule.compile context value = .ok rule → holds rule
  | .string text, rule, hrule => hholds.relation text rule hrule
  | .mapping [(label, content)], rule, hrule => by
      rw [Rule.compile] at hrule
      split at hrule
      · obtain ⟨items, hitems, hrule⟩ := bind_eq_ok_iff.mp hrule
        cases hrule
        obtain ⟨hne, heach⟩ := compileList hholds "and" content items hitems
        exact hholds.conjunction items hne heach
      · obtain ⟨items, hitems, hrule⟩ := bind_eq_ok_iff.mp hrule
        cases hrule
        obtain ⟨hne, heach⟩ := compileList hholds "or" content items hitems
        exact hholds.disjunction items hne heach
      · obtain ⟨body, hbody, hrule⟩ := bind_eq_ok_iff.mp hrule
        cases hrule
        exact hholds.negation body (compile hholds content body hbody)
      · exact hholds.call content rule hrule
      · exact compileLoop hholds content rule hrule
      · cases hrule
      · cases hrule
  | .mapping [], _, hrule | .mapping (_ :: _ :: _), _, hrule => by cases hrule
  | .null, _, hrule | .bool _, _, hrule | .number _, _, hrule | .sequence _, _, hrule
  | .tagged .., _, hrule => by cases hrule

theorem compileList (hholds : context.Closes holds) (label : String) :
    ∀ (value : Yaml.Value) (items : List Rule),
      Rule.compileList context label value = .ok items → items ≠ [] ∧ ∀ item ∈ items, holds item
  | .sequence (value :: values), items, hitems => by
      obtain ⟨rule, hrule, hitems⟩ := bind_eq_ok_iff.mp hitems
      obtain ⟨rules, hrules, hitems⟩ := bind_eq_ok_iff.mp hitems
      cases hitems
      exact ⟨List.cons_ne_nil rule rules, List.forall_mem_cons.mpr
        ⟨compile hholds value rule hrule, compileEach hholds values rules hrules⟩⟩
  | .tagged _ value, items, hitems => compileList hholds label value items hitems
  | .sequence [], _, hitems | .null, _, hitems | .bool _, _, hitems | .number _, _, hitems
  | .string _, _, hitems | .mapping _, _, hitems => by cases hitems

theorem compileEach (hholds : context.Closes holds) :
    ∀ (values : List Yaml.Value) (items : List Rule),
      Rule.compileEach context values = .ok items → ∀ item ∈ items, holds item
  | [], items, hitems => by
      cases hitems
      simp
  | value :: values, items, hitems => by
      obtain ⟨rule, hrule, hitems⟩ := bind_eq_ok_iff.mp hitems
      obtain ⟨rules, hrules, hitems⟩ := bind_eq_ok_iff.mp hitems
      cases hitems
      exact List.forall_mem_cons.mpr
        ⟨compile hholds value rule hrule, compileEach hholds values rules hrules⟩

theorem compileLoop (hholds : context.Closes holds) :
    ∀ (value : Yaml.Value) (rule : Rule),
      Rule.compileLoop context value = .ok rule → holds rule
  | .mapping entries, rule, hrule => by
      obtain ⟨⟨quantifier, owner, field⟩, hhead, hrule⟩ := bind_eq_ok_iff.mp hrule
      obtain ⟨body, hbody, hrule⟩ := bind_eq_ok_iff.mp hrule
      cases hrule
      exact hholds.loop entries quantifier owner field body hhead
        (compileCondition hholds entries body hbody)
  | .tagged _ value, rule, hrule => compileLoop hholds value rule hrule
  | .null, _, hrule | .bool _, _, hrule | .number _, _, hrule | .string _, _, hrule
  | .sequence _, _, hrule => by cases hrule

theorem compileCondition (hholds : context.Closes holds) :
    ∀ (entries : List (Yaml.Value × Yaml.Value)) (rule : Rule),
      Rule.compileCondition context entries = .ok rule → holds rule
  | [], _, hrule => by cases hrule
  | (key, value) :: entries, rule, hrule => by
      rw [Rule.compileCondition] at hrule
      split at hrule
      · exact compile hholds value rule hrule
      · exact compileCondition hholds entries rule hrule

end

end Context.Closes

end Rule

end ReqConflict
