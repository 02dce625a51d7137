import ReqConflict.Proofs.Expr.Requests
import ReqConflict.Proofs.Expr.Stack
import ReqConflict.Rule.Basic

/-!
# Requests of rules

The requests that judging a rule on two subjects makes.  A condition has no
field that ranks above a list of entities, so that a rule judged on conditions
does not ask for anything about conditions.

A rule all of whose relations pass the check of a complete registry fails only
in evaluation: a field is absent, is not a list of conditions, or has a value
that an expression cannot use.
-/

namespace ReqConflict

open Request (after)

/-- What judging a rule on two subjects can fail with, though nothing is wrong
with the document that the rule is from. -/
def RuleError.IsEvaluation : RuleError → Prop
  | missingField .. | notIterable .. | expression _ => True
  | _ => False

namespace Subject

def rank : Subject → Nat
  | requirement _ => 2
  | condition _ => 1

theorem rank_pos (x : Subject) : 0 < x.rank := by
  cases x <;> simp [rank]

theorem rank_field? {x : Subject} {name : String} {value : Value}
    (hfield : x.field? name = some value) : value.rank ≤ x.rank := by
  have hpos := x.rank_pos
  unfold field? at hfield
  cases x <;> grind [events?, Value.rank, rank]

theorem rank_field {x : Subject} {name : String} {value : Value}
    (hfield : x.field name = .ok value) : value.rank ≤ x.rank := by
  unfold field at hfield
  cases hfound : x.field? name with
  | none => simp [hfound] at hfield
  | some found =>
      have heq : found = value := by simpa [hfound] using hfield
      exact heq ▸ rank_field? hfound

theorem isEvaluation_field {x : Subject} {name : String} {error : RuleError}
    (herror : x.field name = .error error) : error.root.IsEvaluation := by
  unfold field at herror
  cases hvalue : x.field? name with
  | some value => simp [hvalue] at herror
  | none =>
      have heq : RuleError.missingField name x.kind = error := by simpa [hvalue] using herror
      exact heq ▸ trivial

/-- Errors of a field, and those of what is made of its value. -/
theorem isEvaluation_field_bind {α : Type} {x : Subject} {name : String} {error : RuleError}
    {next : Value → Except RuleError α}
    (hnext : ∀ value cause, next value = .error cause → cause.root.IsEvaluation)
    (herror : (x.field name >>= next) = .error error) : error.root.IsEvaluation := by
  rcases bind_eq_error_iff.mp herror with hfield | ⟨value, _, hvalue⟩
  · exact isEvaluation_field hfield
  · exact hnext value error hvalue

theorem isEvaluation_conditions {x : Subject} {name : String} {error : RuleError}
    (herror : x.conditions name = .error error) : error.root.IsEvaluation := by
  apply isEvaluation_field_bind _ herror
  intro value cause hcause
  cases value with
  | conditions _ => cases hcause
  | _ =>
      cases hcause
      trivial

theorem isEvaluation_entities {x : Subject} {purpose name : String} {error : RuleError}
    (herror : x.entities purpose name = .error error) : error.root.IsEvaluation := by
  apply isEvaluation_field_bind _ herror
  intro value cause hcause
  cases value with
  | entities _ => cases hcause
  | _ =>
      cases hcause
      trivial

end Subject

namespace Registry

/-- Whatever a relation is permitted for has a comparison, and so does the
inclusion of entities. -/
def IsComplete (registry : Registry) : Prop :=
  ∀ pair ∈ registry.required, ∃ comparison, registry.comparison pair.1 pair.2 = .ok comparison

def compareRequests (registry : Registry) (helpers : Helpers) (relation : Relation)
    (type : String) (a b : Value) : List Request :=
  after (registry.comparison relation type) fun comparison =>
    comparison.requests helpers (Expr.bindings a b)

def relateRequests (registry : Registry) (helpers : Helpers) (x : Subject) (field1 : String)
    (relation : Relation) (y : Subject) (field2 : String) : List Request :=
  after (x.field field1) fun a =>
    after (y.field field2) fun b =>
      after (registry.check field1 relation field2) fun type =>
        registry.compareRequests helpers relation type a b

def entityRequests (registry : Registry) (helpers : Helpers) (a b : Entity) : List Request :=
  registry.compareRequests helpers .includes entityType (.entity a) (.entity b)

def entitySetRequests (registry : Registry) (helpers : Helpers) (a b : List Entity) :
    List Request :=
  Quantifier.all.requests
    (fun wanted =>
      Quantifier.any.over (fun candidate => registry.entityIncludes helpers candidate wanted) a)
    (fun wanted =>
      Quantifier.any.requests (fun candidate => registry.entityIncludes helpers candidate wanted)
        (fun candidate => registry.entityRequests helpers candidate wanted) a) b

variable {registry : Registry} {bound : Nat}

theorem IsComplete.entity (hregistry : registry.IsComplete) :
    ∃ comparison, registry.comparison .includes entityType = .ok comparison := by
  apply hregistry (.includes, entityType)
  apply List.mem_append_right
  exact List.mem_cons_self

theorem IsComplete.checked (hregistry : registry.IsComplete) {field1 field2 type : String}
    {relation : Relation} (hcheck : registry.check field1 relation field2 = .ok type) :
    ∃ comparison, registry.comparison relation type = .ok comparison := by
  have hpermitted : registry.isPermitted relation type = true := by
    obtain ⟨type1, _, hcheck⟩ := bind_eq_ok_iff.mp hcheck
    obtain ⟨type2, _, hcheck⟩ := bind_eq_ok_iff.mp hcheck
    by_cases htypes : type1 ≠ type2
    · simp [htypes, throw, throwThe, MonadExceptOf.throw, bind, Except.bind] at hcheck
    · cases hpermitted : registry.isPermitted relation type1 with
      | false =>
          simp [htypes, hpermitted, throw, throwThe, MonadExceptOf.throw, bind, Except.bind]
            at hcheck
      | true =>
          have heq : type1 = type := by
            simpa [htypes, hpermitted, pure, Except.pure, bind, Except.bind] using hcheck
          exact heq ▸ hpermitted
  exact hregistry (relation, type)
    (List.mem_append_left _ (List.contains_iff_mem.mp hpermitted))

theorem asks_compare {relation : Relation} {type : String} {a b : Value}
    (hcomparison : ∃ comparison, registry.comparison relation type = .ok comparison)
    (ha : a.rank ≤ bound) (hb : b.rank ≤ bound) :
    Asks RuleError.IsEvaluation bound
      (fun helpers => registry.compare helpers relation type a b)
      (fun helpers => registry.compareRequests helpers relation type a b) := by
  obtain ⟨comparison, hcomparison⟩ := hcomparison
  have hbindings : Environment.Within bound (Expr.bindings a b) :=
    List.forall_mem_cons.mpr ⟨hb, List.forall_mem_singleton.mpr ha⟩
  simp only [compare, compareRequests, hcomparison, bind, Except.bind, Expr.compare_eq]
  exact Expr.asks_truthOf (fun _ => trivial)
    (Expr.asks_eval (fun _ => trivial) comparison _ hbindings) "comparison"

theorem asks_relate (hregistry : registry.IsComplete) {x y : Subject} {field1 field2 : String}
    {relation : Relation} (hcheck : ∃ type, registry.check field1 relation field2 = .ok type)
    (hx : x.rank ≤ bound) (hy : y.rank ≤ bound) :
    Asks RuleError.IsEvaluation bound
      (fun helpers => registry.relate helpers x field1 relation y field2)
      (fun helpers => registry.relateRequests helpers x field1 relation y field2) := by
  obtain ⟨type, hcheck⟩ := hcheck
  refine Asks.result_bind (fun _ herror => Subject.isEvaluation_field herror) fun a ha => ?_
  refine Asks.result_bind (fun _ herror => Subject.isEvaluation_field herror) fun b hb => ?_
  simp only [hcheck]
  exact asks_compare (hregistry.checked hcheck) (Nat.le_trans (Subject.rank_field ha) hx)
    (Nat.le_trans (Subject.rank_field hb) hy)

/-- Comparing two entities asks for nothing that is about a list. -/
theorem asks_entityIncludes (hregistry : registry.IsComplete) (a b : Entity) :
    Asks RuleError.IsEvaluation 0 (fun helpers => registry.entityIncludes helpers a b)
      (fun helpers => registry.entityRequests helpers a b) :=
  asks_compare hregistry.entity (Nat.le_refl 0) (Nat.le_refl 0)

theorem asks_entitySetInclude (hregistry : registry.IsComplete) (a b : List Entity) :
    Asks RuleError.IsEvaluation 0 (fun helpers => registry.entitySetInclude helpers a b)
      (fun helpers => registry.entitySetRequests helpers a b) := by
  apply Asks.quantified .all b
  intro wanted _
  apply Asks.quantified .any a
  intro candidate _
  exact asks_entityIncludes hregistry candidate wanted

end Registry

/-! ## Rules -/

namespace Rule

mutual

/-- Every relation in the rule is between fields of one type that it is
permitted for. -/
def IsChecked (registry : Registry) : Rule → Prop
  | relation _ field1 name _ field2 => ∃ type, registry.check field1 name field2 = .ok type
  | negation body | named _ _ body | loop _ _ _ body | interlock _ body => IsChecked registry body
  | conjunction items | disjunction items => IsCheckedEach registry items

def IsCheckedEach (registry : Registry) : List Rule → Prop
  | [] => True
  | item :: items => IsChecked registry item ∧ IsCheckedEach registry items

end

def feedsRequests (registry : Registry) (helpers : Helpers) (x y : Subject) : List Request :=
  after (x.entities RuleName.inputOutputInterlock "output") fun outputs =>
    after (y.entities RuleName.inputOutputInterlock "input") fun inputs =>
      Quantifier.any.requests
        (fun produced =>
          Quantifier.any.over (fun consumed => registry.entityIncludes helpers produced consumed)
            inputs)
        (fun produced =>
          Quantifier.any.requests
            (fun consumed => registry.entityIncludes helpers produced consumed)
            (fun consumed => registry.entityRequests helpers produced consumed) inputs) outputs

mutual

def requests (registry : Registry) (helpers : Helpers) : Rule → Subject → Subject → List Request
  | relation left field1 name right field2, x, y =>
      registry.relateRequests helpers (left.pick x y) field1 name (right.pick x y) field2
  | negation body, x, y => requests registry helpers body x y
  | conjunction items, x, y => requestsAll registry helpers items x y
  | disjunction items, x, y => requestsAny registry helpers items x y
  | named _ _ body, x, y => requests registry helpers body x y
  | loop quantifier .first field body, x, y =>
      after (x.conditions field) fun conditions =>
        quantifier.requests (fun c => body.eval registry helpers (.condition c) y)
          (fun c => requests registry helpers body (.condition c) y) conditions
  | loop quantifier .second field body, x, y =>
      after (y.conditions field) fun conditions =>
        quantifier.requests (fun c => body.eval registry helpers x (.condition c))
          (fun c => requests registry helpers body x (.condition c)) conditions
  | interlock _ inconsistency, x, y =>
      let isInconsistent := fun x y =>
        RuleError.within RuleName.eventInconsistency (inconsistency.eval registry helpers x y)
      requests registry helpers inconsistency x y ++ after (isInconsistent x y) fun forth =>
        if forth then []
        else
          requests registry helpers inconsistency y x ++ after (isInconsistent y x) fun back =>
            if back then [] else feedsRequests registry helpers x y

def requestsAll (registry : Registry) (helpers : Helpers) :
    List Rule → Subject → Subject → List Request
  | [], _, _ => []
  | item :: items, x, y =>
      requests registry helpers item x y ++ after (item.eval registry helpers x y) fun truth =>
        if truth then requestsAll registry helpers items x y else []

def requestsAny (registry : Registry) (helpers : Helpers) :
    List Rule → Subject → Subject → List Request
  | [], _, _ => []
  | item :: items, x, y =>
      requests registry helpers item x y ++ after (item.eval registry helpers x y) fun truth =>
        if truth then [] else requestsAny registry helpers items x y

end

variable {registry : Registry} {bound : Nat}

theorem asks_feeds (hregistry : registry.IsComplete) (x y : Subject) :
    Asks RuleError.IsEvaluation 0 (fun helpers => feeds registry helpers x y)
      (fun helpers => feedsRequests registry helpers x y) := by
  refine Asks.result_bind (fun _ herror => Subject.isEvaluation_entities herror)
    fun outputs _ => ?_
  refine Asks.result_bind (fun _ herror => Subject.isEvaluation_entities herror)
    fun inputs _ => ?_
  exact Asks.quantified .any outputs fun produced _ =>
    Asks.quantified .any inputs fun consumed _ =>
      Registry.asks_entityIncludes hregistry produced consumed

mutual

theorem asks_eval (hregistry : registry.IsComplete) :
    ∀ (rule : Rule) (x y : Subject), rule.IsChecked registry → x.rank ≤ bound → y.rank ≤ bound →
      Asks RuleError.IsEvaluation bound (fun helpers => rule.eval registry helpers x y)
        (fun helpers => rule.requests registry helpers x y)
  | relation left field1 name right field2, x, y, hchecked, hx, hy => by
      apply Registry.asks_relate hregistry hchecked
      · cases left with
        | first => exact hx
        | second => exact hy
      · cases right with
        | first => exact hx
        | second => exact hy
  | negation body, x, y, hchecked, hx, hy =>
      (asks_eval hregistry body x y hchecked hx hy).map Bool.not
  | conjunction items, x, y, hchecked, hx, hy => asks_evalAll hregistry items x y hchecked hx hy
  | disjunction items, x, y, hchecked, hx, hy => asks_evalAny hregistry items x y hchecked hx hy
  | named _ name body, x, y, hchecked, hx, hy =>
      (asks_eval hregistry body x y hchecked hx hy).within name
  | loop quantifier .first field body, x, y, hchecked, hx, hy => by
      refine Asks.result_bind (fun _ herror => Subject.isEvaluation_conditions herror)
        fun conditions _ => ?_
      -- a condition takes the place of a subject that does not rank below it
      exact Asks.quantified quantifier conditions fun c _ =>
        asks_eval hregistry body (.condition c) y hchecked (Nat.le_trans x.rank_pos hx) hy
  | loop quantifier .second field body, x, y, hchecked, hx, hy => by
      refine Asks.result_bind (fun _ herror => Subject.isEvaluation_conditions herror)
        fun conditions _ => ?_
      exact Asks.quantified quantifier conditions fun c _ =>
        asks_eval hregistry body x (.condition c) hchecked hx (Nat.le_trans y.rank_pos hy)
  | interlock _ inconsistency, x, y, hchecked, hx, hy => by
      have hforth := asks_eval hregistry inconsistency x y hchecked hx hy
      have hback := asks_eval hregistry inconsistency y x hchecked hy hx
      refine (hforth.within RuleName.eventInconsistency).bind fun forth _ _ => ?_
      refine Asks.ite forth (Asks.of_ok false) ?_
      refine (hback.within RuleName.eventInconsistency).bind fun back _ _ => ?_
      exact Asks.ite back (Asks.of_ok false) ((asks_feeds hregistry x y).mono (Nat.zero_le bound))

theorem asks_evalAll (hregistry : registry.IsComplete) :
    ∀ (items : List Rule) (x y : Subject), IsCheckedEach registry items → x.rank ≤ bound →
      y.rank ≤ bound →
      Asks RuleError.IsEvaluation bound (fun helpers => evalAll registry helpers items x y)
        (fun helpers => requestsAll registry helpers items x y)
  | [], _, _, _, _, _ => Asks.of_ok true
  | item :: items, x, y, hchecked, hx, hy => by
      have hitem := asks_eval hregistry item x y hchecked.1 hx hy
      have hitems := asks_evalAll hregistry items x y hchecked.2 hx hy
      exact hitem.bind fun truth _ _ => Asks.ite truth hitems (Asks.of_ok false)

theorem asks_evalAny (hregistry : registry.IsComplete) :
    ∀ (items : List Rule) (x y : Subject), IsCheckedEach registry items → x.rank ≤ bound →
      y.rank ≤ bound →
      Asks RuleError.IsEvaluation bound (fun helpers => evalAny registry helpers items x y)
        (fun helpers => requestsAny registry helpers items x y)
  | [], _, _, _, _, _ => Asks.of_ok false
  | item :: items, x, y, hchecked, hx, hy => by
      have hitem := asks_eval hregistry item x y hchecked.1 hx hy
      have hitems := asks_evalAny hregistry items x y hchecked.2 hx hy
      exact hitem.bind fun truth _ _ => Asks.ite truth (Asks.of_ok true) hitems

end

end Rule

end ReqConflict
