import ReqConflict.Proofs.Outcome
import ReqConflict.Proofs.Requests

/-!
# Requests of expressions

The requests that evaluating an expression makes.  Attributes and members do
not rank above the value that they are taken from, and all other expressions
are truth values or texts.  So an expression makes no request that ranks above
the values it is evaluated on: on two entities it makes none at all.
-/

namespace ReqConflict

namespace Value

/-- A list of conditions ranks above conditions and lists of entities, and
these above what contains no list for a helper. -/
def rank : Value → Nat
  | conditions _ => 2
  | condition _ | entities _ => 1
  | _ => 0

theorem rank_reach {value reached : Value} {wanted : Attribute}
    (hreach : value.reach wanted = .ok reached) : reached.rank ≤ value.rank := by
  cases value <;> cases wanted <;> simp only [reach, Except.ok.injEq, reduceCtorEq] at hreach
  case entity.entirety e =>
    subst hreach
    cases e.whole? <;> exact Nat.le_refl 0
  all_goals
    subst hreach
    simp only [rank, Nat.le_refl, Nat.zero_le]

theorem rank_foldlM_reach {value reached : Value} {wanted : List Attribute}
    (hreach : wanted.foldlM reach value = .ok reached) : reached.rank ≤ value.rank := by
  induction wanted generalizing value with
  | nil =>
      have heq : value = reached := by simpa [pure, Except.pure] using hreach
      subst heq
      exact Nat.le_refl _
  | cons nearest wanted ih =>
      rw [List.foldlM_cons, bind_eq_ok_iff] at hreach
      obtain ⟨between, hbetween, hreach⟩ := hreach
      calc
        reached.rank ≤ between.rank := ih hreach
        _ ≤ value.rank := rank_reach hbetween

theorem rank_elements {value member : Value} {purpose : String} {members : List Value}
    (helements : value.elements purpose = .ok members) (hmember : member ∈ members) :
    member.rank ≤ value.rank := by
  cases value <;> simp only [elements, Except.ok.injEq, reduceCtorEq] at helements
  all_goals
    subst helements
    obtain ⟨part, _, rfl⟩ := List.mem_map.mp hmember
    simp [rank]

end Value

namespace Environment

/-- No variable holds a value above a rank. -/
def Within (bound : Nat) (environment : Environment) : Prop :=
  ∀ binding ∈ environment, binding.2.rank ≤ bound

theorem Within.cons {bound : Nat} {environment : Environment} {name : String} {value : Value}
    (hvalue : value.rank ≤ bound) (henvironment : environment.Within bound) :
    Within bound ((name, value) :: environment) :=
  List.forall_mem_cons.mpr ⟨hvalue, henvironment⟩

theorem Within.find {bound : Nat} {environment : Environment} {name : String} {value : Value}
    (henvironment : environment.Within bound) (hfind : environment.find name = .ok value) :
    value.rank ≤ bound := by
  unfold Environment.find at hfind
  cases hlookup : environment.lookup name with
  | none => simp [hlookup] at hfind
  | some found =>
      obtain ⟨before, others, hsplit, _⟩ := List.lookup_eq_some_iff.mp hlookup
      have heq : found = value := by simpa [hlookup] using hfind
      have hmem : (name, found) ∈ environment := by simp [hsplit]
      rw [← heq]
      exact henvironment (name, found) hmem

end Environment

namespace RuleError

theorem ofExpr_eq_ok_iff {α : Type} {result : Except ExprError α} {value : α} :
    ofExpr result = .ok value ↔ result = .ok value := by
  cases result <;> simp [ofExpr]

theorem ofExpr_eq_error_iff {α : Type} {result : Except ExprError α} {error : RuleError} :
    ofExpr result = .error error ↔ ∃ cause, result = .error cause ∧ error = .expression cause := by
  cases result <;> simp [ofExpr, eq_comm (a := error)]

theorem own_of_ofExpr {own : RuleError → Prop} (hown : ∀ cause, own (.expression cause))
    {α : Type} {result : Except ExprError α} {error : RuleError}
    (herror : ofExpr result = .error error) : own error.root := by
  obtain ⟨cause, _, rfl⟩ := ofExpr_eq_error_iff.mp herror
  exact hown cause

end RuleError

/-- The request that a call makes on these arguments.  The set functions make
none, and neither does a call that has no value. -/
def Builtin.requests : Builtin → List Value → List Request
  | .entitySetInclude, [.entities a, .entities b] => [.entitySetInclude a b]
  | .conditionSetInclude, [.conditions a, .conditions b] => [.conditionSetInclude a b]
  | .conditionContradict, [.conditions a] => [.conditionContradict a]
  | _, _ => []

namespace Expr

open Request (after)

mutual

def requests (helpers : Helpers) : Expr → Environment → List Request
  | bool _, _ | text _, _ | path .., _ => []
  | negation body, environment => requests helpers body environment
  | conjunction items, environment => requestsAll helpers items environment
  | disjunction items, environment => requestsAny helpers items environment
  | comparison _ left right, environment =>
      requests helpers left environment ++ after (left.eval helpers environment) fun _ =>
        requests helpers right environment
  | call function arguments, environment =>
      requestsEach helpers arguments environment ++
        after (evalEach helpers arguments environment) fun values => function.requests values
  | quantified quantifier binder list body, environment =>
      requests helpers list environment ++ after (list.eval helpers environment) fun value =>
        after (RuleError.ofExpr (value.elements "quantifier")) fun members =>
          quantifier.requests
            (fun member =>
              truthOf "quantifier body" (body.eval helpers ((binder, member) :: environment)))
            (fun member => requests helpers body ((binder, member) :: environment)) members

def requestsAll (helpers : Helpers) : List Expr → Environment → List Request
  | [], _ => []
  | item :: items, environment =>
      requests helpers item environment ++
        after (truthOf "and" (item.eval helpers environment)) fun truth =>
          if truth then requestsAll helpers items environment else []

def requestsAny (helpers : Helpers) : List Expr → Environment → List Request
  | [], _ => []
  | item :: items, environment =>
      requests helpers item environment ++
        after (truthOf "or" (item.eval helpers environment)) fun truth =>
          if truth then [] else requestsAny helpers items environment

def requestsEach (helpers : Helpers) : List Expr → Environment → List Request
  | [], _ => []
  | item :: items, environment =>
      requests helpers item environment ++ after (item.eval helpers environment) fun _ =>
        requestsEach helpers items environment

end

variable {bound : Nat} {environment : Environment}

theorem rank_eval {helpers : Helpers} {expr : Expr} {value : Value}
    (henvironment : environment.Within bound) (heval : expr.eval helpers environment = .ok value) :
    value.rank ≤ bound := by
  cases expr with
  | path root wanted =>
      have hpath := RuleError.ofExpr_eq_ok_iff.mp heval
      obtain ⟨start, hstart, hreach⟩ := bind_eq_ok_iff.mp hpath
      calc
        value.rank ≤ start.rank := Value.rank_foldlM_reach hreach
        _ ≤ bound := henvironment.find hstart
  | bool truth | text _ =>
      cases heval
      exact Nat.zero_le bound
  | negation body =>
      obtain ⟨_, _, hvalue⟩ := bind_eq_ok_iff.mp heval
      cases hvalue
      exact Nat.zero_le bound
  | conjunction items | disjunction items =>
      obtain ⟨_, _, rfl⟩ := map_eq_ok_iff.mp heval
      exact Nat.zero_le bound
  | comparison isEqual left right =>
      obtain ⟨_, _, heval⟩ := bind_eq_ok_iff.mp heval
      obtain ⟨_, _, heval⟩ := bind_eq_ok_iff.mp heval
      obtain ⟨_, _, hvalue⟩ := bind_eq_ok_iff.mp heval
      cases hvalue
      exact Nat.zero_le bound
  | call function arguments =>
      obtain ⟨_, _, heval⟩ := bind_eq_ok_iff.mp heval
      obtain ⟨_, _, hvalue⟩ := bind_eq_ok_iff.mp heval
      cases hvalue
      exact Nat.zero_le bound
  | quantified quantifier binder list body =>
      obtain ⟨_, _, heval⟩ := bind_eq_ok_iff.mp heval
      obtain ⟨_, _, heval⟩ := bind_eq_ok_iff.mp heval
      obtain ⟨_, _, hvalue⟩ := bind_eq_ok_iff.mp heval
      cases hvalue
      exact Nat.zero_le bound

theorem rank_evalEach {helpers : Helpers} {items : List Expr} {values : List Value}
    (henvironment : environment.Within bound)
    (heval : evalEach helpers items environment = .ok values) :
    ∀ value ∈ values, value.rank ≤ bound := by
  induction items generalizing values with
  | nil =>
      cases heval
      simp
  | cons item items ih =>
      obtain ⟨value, hvalue, heval⟩ := bind_eq_ok_iff.mp heval
      obtain ⟨others, hothers, heq⟩ := bind_eq_ok_iff.mp heval
      cases heq
      exact List.forall_mem_cons.mpr ⟨rank_eval henvironment hvalue, ih hothers⟩

/-! ## What evaluation asks -/

variable {own : RuleError → Prop}

/-- The functions without helpers ask for nothing. -/
theorem asks_ofExpr (hown : ∀ cause, own (.expression cause)) {α : Type}
    (result : Except ExprError α) :
    Asks own bound (fun _ => RuleError.ofExpr result) (fun _ => []) := by
  apply Asks.of_result
  intro error herror
  exact RuleError.own_of_ofExpr hown herror

theorem asks_expression (hown : ∀ cause, own (.expression cause)) {α : Type} (cause : ExprError) :
    Asks own bound (fun _ => (.error (.expression cause) : Except RuleError α)) (fun _ => []) :=
  asks_ofExpr hown (.error cause)

theorem asks_truthOf (hown : ∀ cause, own (.expression cause))
    {run : Helpers → Except RuleError Value} {requests : Helpers → List Request}
    (hrun : Asks own bound run requests) (purpose : String) :
    Asks own bound (fun helpers => truthOf purpose (run helpers)) requests := by
  apply hrun.bind_result
  intro value error herror
  exact RuleError.own_of_ofExpr hown herror

/-- A call is answered by a helper exactly if it makes a request. -/
theorem asks_apply (hown : ∀ cause, own (.expression cause)) (function : Builtin)
    {values : List Value} (hvalues : ∀ value ∈ values, value.rank ≤ bound) :
    Asks own bound (fun helpers => function.apply helpers values)
      (fun _ => function.requests values) := by
  unfold Builtin.apply
  split
  case h_5 a b =>
      have hrank : (Value.entities a).rank ≤ bound := hvalues _ List.mem_cons_self
      exact Asks.answer (.entitySetInclude a b) hrank
  case h_6 a b =>
      have hrank : (Value.conditions a).rank ≤ bound := hvalues _ List.mem_cons_self
      exact Asks.answer (.conditionSetInclude a b) hrank
  case h_7 conditions =>
      have hrank : (Value.conditions conditions).rank ≤ bound := hvalues _ List.mem_cons_self
      exact Asks.answer (.conditionContradict conditions) hrank
  case h_8 a b hkinds =>
      have hnone : Builtin.entitySetInclude.requests [a, b] = [] := by
        rw [Builtin.requests]
        · intro as bs _ heq
          simp only [List.cons.injEq] at heq
          exact hkinds as bs heq.1 heq.2.1
        · intro as bs hfunction
          cases hfunction
        · intro as hfunction
          cases hfunction
      rw [hnone]
      exact asks_expression hown _
  case h_9 a b hkinds =>
      have hnone : Builtin.conditionSetInclude.requests [a, b] = [] := by
        rw [Builtin.requests]
        · intro as bs hfunction
          cases hfunction
        · intro as bs _ heq
          simp only [List.cons.injEq] at heq
          exact hkinds as bs heq.1 heq.2.1
        · intro as hfunction
          cases hfunction
      rw [hnone]
      exact asks_expression hown _
  case h_10 =>
      have hnone : function.requests values = [] := by
        rw [Builtin.requests]
        all_goals assumption
      rw [hnone]
      exact asks_expression hown _
  all_goals exact asks_ofExpr hown _

mutual

theorem asks_eval (hown : ∀ cause, own (.expression cause)) :
    ∀ (expr : Expr) (environment : Environment), environment.Within bound →
      Asks own bound (fun helpers => expr.eval helpers environment)
        (fun helpers => expr.requests helpers environment)
  | bool _, _, _ | text _, _, _ => Asks.of_ok _
  | path _ _, _, _ => Asks.of_result fun _ herror => RuleError.own_of_ofExpr hown herror
  | negation body, environment, henvironment =>
      (asks_truthOf hown (asks_eval hown body environment henvironment) "not").map
        fun truth => Value.bool !truth
  | conjunction items, environment, henvironment => by
      have hitems := asks_evalAll hown items environment henvironment
      simpa only [eval, requests, map_eq_pure_bind] using hitems.map Value.bool
  | disjunction items, environment, henvironment => by
      have hitems := asks_evalAny hown items environment henvironment
      simpa only [eval, requests, map_eq_pure_bind] using hitems.map Value.bool
  | comparison isEqual left right, environment, henvironment => by
      have hleft := asks_eval hown left environment henvironment
      have hright := asks_eval hown right environment henvironment
      refine hleft.bind fun a _ _ => ?_
      refine hright.bind_result fun b error herror => ?_
      rcases bind_eq_error_iff.mp herror with herror | ⟨_, _, herror⟩
      · exact RuleError.own_of_ofExpr hown herror
      · cases herror
  | call function arguments, environment, henvironment => by
      have harguments := asks_evalEach hown arguments environment henvironment
      refine harguments.bind fun values helpers hvalues => ?_
      exact (asks_apply hown function (rank_evalEach henvironment hvalues)).map Value.bool
  | quantified quantifier binder list body, environment, henvironment => by
      have hlist := asks_eval hown list environment henvironment
      refine hlist.bind fun value helpers hvalue => ?_
      refine Asks.result_bind (fun _ herror => RuleError.own_of_ofExpr hown herror)
        fun members helements => ?_
      refine (Asks.quantified quantifier members fun member hmember => ?_).map Value.bool
      -- the bound carries over into the body: a member does not rank above its list
      have hrank : member.rank ≤ bound :=
        Nat.le_trans (Value.rank_elements (RuleError.ofExpr_eq_ok_iff.mp helements) hmember)
          (rank_eval henvironment hvalue)
      exact asks_truthOf hown (asks_eval hown body _ (henvironment.cons hrank)) "quantifier body"

theorem asks_evalAll (hown : ∀ cause, own (.expression cause)) :
    ∀ (items : List Expr) (environment : Environment), environment.Within bound →
      Asks own bound (fun helpers => evalAll helpers items environment)
        (fun helpers => requestsAll helpers items environment)
  | [], _, _ => Asks.of_ok true
  | item :: items, environment, henvironment => by
      have hitem := asks_truthOf hown (asks_eval hown item environment henvironment) "and"
      have hitems := asks_evalAll hown items environment henvironment
      exact hitem.bind fun truth _ _ => Asks.ite truth hitems (Asks.of_ok false)

theorem asks_evalAny (hown : ∀ cause, own (.expression cause)) :
    ∀ (items : List Expr) (environment : Environment), environment.Within bound →
      Asks own bound (fun helpers => evalAny helpers items environment)
        (fun helpers => requestsAny helpers items environment)
  | [], _, _ => Asks.of_ok false
  | item :: items, environment, henvironment => by
      have hitem := asks_truthOf hown (asks_eval hown item environment henvironment) "or"
      have hitems := asks_evalAny hown items environment henvironment
      exact hitem.bind fun truth _ _ => Asks.ite truth (Asks.of_ok true) hitems

theorem asks_evalEach (hown : ∀ cause, own (.expression cause)) :
    ∀ (items : List Expr) (environment : Environment), environment.Within bound →
      Asks own bound (fun helpers => evalEach helpers items environment)
        (fun helpers => requestsEach helpers items environment)
  | [], _, _ => Asks.of_ok []
  | item :: items, environment, henvironment => by
      have hitem := asks_eval hown item environment henvironment
      have hitems := asks_evalEach hown items environment henvironment
      exact hitem.bind fun value _ _ => hitems.map (value :: ·)

end

end Expr

end ReqConflict
