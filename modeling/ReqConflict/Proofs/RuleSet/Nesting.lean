import ReqConflict.Proofs.BuiltinRules.RuleSet
import ReqConflict.Proofs.RuleSet.Compiled

/-!
# Nesting of helpers

Helpers run comparisons and rules, which ask helpers again.  What is asked
while a request is answered ranks below the request: comparing entities asks
for nothing, and judging a rule on conditions asks only about lists of
entities.  So the helpers of a compiled rule set do not depend on the depth
that they are given, if only it reaches the highest rank.  They are the only
helpers that answer by themselves.

The order in which rules are defined plays no part in this, since helpers call
rules wherever these are defined.
-/

namespace ReqConflict

namespace Helpers

/-- The same answers to requests that do not rank above a bound. -/
def AgreeTo (bound : Nat) (helpers others : Helpers) : Prop :=
  ∀ request : Request, request.rank ≤ bound → helpers.answer request = others.answer request

variable {helpers others : Helpers}

theorem agreeTo_zero : AgreeTo 0 helpers others :=
  fun request hrank => absurd request.rank_pos (Nat.not_lt.mpr hrank)

theorem AgreeTo.mono {bound smaller : Nat} (hagree : AgreeTo bound helpers others)
    (hle : smaller ≤ bound) : AgreeTo smaller helpers others :=
  fun request hrank => hagree request (Nat.le_trans hrank hle)

theorem AgreeTo.eq (hagree : AgreeTo deepest helpers others) : helpers = others := by
  obtain ⟨entitySetInclude, conditionSetInclude, conditionContradict⟩ := helpers
  obtain ⟨entitySetInclude', conditionSetInclude', conditionContradict'⟩ := others
  have hentities : entitySetInclude = entitySetInclude' := by
    funext a b
    exact hagree (.entitySetInclude a b) (Request.rank_le_two _)
  have hinclude : conditionSetInclude = conditionSetInclude' := by
    funext a b
    exact hagree (.conditionSetInclude a b) (Request.rank_le_two _)
  have hcontradict : conditionContradict = conditionContradict' := by
    funext conditions
    exact hagree (.conditionContradict conditions) (Request.rank_le_two _)
  rw [hentities, hinclude, hcontradict]

end Helpers

/-- The helper that is asked is one for lists of conditions. -/
def Request.IsAboutConditions : Request → Prop
  | entitySetInclude .. => False
  | conditionSetInclude .. | conditionContradict .. => True

theorem Request.isAboutConditions_of_rank_lt {inner outer : Request}
    (hrank : inner.rank < outer.rank) : outer.IsAboutConditions ∧ ¬inner.IsAboutConditions := by
  cases inner <;> cases outer <;> simp [rank, IsAboutConditions] at *

namespace RuleSet

/-- The helpers of a rule set, whose comparisons and rules have some helpers. -/
def around (rules : RuleSet) (helpers : Helpers) : Helpers where
  entitySetInclude := rules.registry.entitySetInclude helpers
  conditionSetInclude := rules.conditionSetInclude helpers
  conditionContradict := rules.conditionContradict helpers

def judgeRequests (rules : RuleSet) (helpers : Helpers) (name : String) (x y : Subject) :
    List Request :=
  match rules.find? name with
  | none => []
  | some (_, rule) => rule.requests rules.registry helpers x y

/-- The requests that are made while a request is answered. -/
def requestsWithin (rules : RuleSet) (helpers : Helpers) : Request → List Request
  | .entitySetInclude a b => rules.registry.entitySetRequests helpers a b
  | .conditionSetInclude a b =>
      Quantifier.any.requests
        (fun c =>
          Quantifier.any.over
            (fun d => rules.judgeConditions helpers RuleName.conditionInclude d c) b)
        (fun c =>
          Quantifier.any.requests
            (fun d => rules.judgeConditions helpers RuleName.conditionInclude d c)
            (fun d =>
              rules.judgeRequests helpers RuleName.conditionInclude (.condition d) (.condition c))
            b) a
  | .conditionContradict conditions =>
      let placed := conditions.zipIdx
      Quantifier.any.requests
        (fun (c, i) =>
          Quantifier.any.over (fun (d, j) =>
            if i = j then .ok false
            else rules.judgeConditions helpers RuleName.conditionContradict c d) placed)
        (fun (c, i) =>
          Quantifier.any.requests
            (fun (d, j) =>
              if i = j then .ok false
              else rules.judgeConditions helpers RuleName.conditionContradict c d)
            (fun (d, j) =>
              if i = j then []
              else rules.judgeRequests helpers RuleName.conditionContradict (.condition c)
                (.condition d)) placed) placed

variable {rules : RuleSet} {bound : Nat}

theorem asks_judgeWith (hrules : rules.IsCompiled) {name : String} (hname : name ∈ rules.names)
    {x y : Subject} (hx : x.rank ≤ bound) (hy : y.rank ≤ bound) :
    Asks RuleError.IsEvaluation bound (fun helpers => rules.judgeWith helpers name x y)
      (fun helpers => rules.judgeRequests helpers name x y) := by
  obtain ⟨index, rule, hfind⟩ := exists_find? hname
  obtain ⟨entry, hentry, _, hrule⟩ := NamedRule.exists_of_find? hfind
  have hchecked : rule.IsChecked rules.registry := hrule ▸ hrules.checked entry hentry
  simp only [judgeWith, judgeRequests, hfind]
  exact (Rule.asks_eval hrules.complete rule x y hchecked hx hy).within name

theorem judgeWith_of_not_mem {name : String} (hname : name ∉ rules.names) (helpers : Helpers)
    (x y : Subject) : rules.judgeWith helpers name x y = .error (.missingRule name) := by
  have hnot : ¬(rules.find? name).isSome = true := by
    intro hsome
    exact hname (NamedRule.isSome_find?_iff.mp hsome)
  have hfind : rules.find? name = none := Option.not_isSome_iff_eq_none.mp hnot
  rw [judgeWith, hfind]

/-- What answering a request asks ranks below the request. -/
theorem asks_answer (hrules : rules.IsCompiled) (request : Request) :
    Asks RuleError.IsEvaluation (request.rank - 1)
      (fun helpers => (rules.around helpers).answer request)
      (fun helpers => rules.requestsWithin helpers request) := by
  cases request with
  | entitySetInclude a b => exact Registry.asks_entitySetInclude hrules.complete a b
  | conditionSetInclude a b =>
      have hname : RuleName.conditionInclude ∈ rules.names :=
        hrules.required _ (by simp [RuleName.required])
      refine Asks.quantified .any a fun c _ => ?_
      refine Asks.quantified .any b fun d _ => ?_
      exact asks_judgeWith hrules hname (Nat.le_refl 1) (Nat.le_refl 1)
  | conditionContradict conditions =>
      have hname : RuleName.conditionContradict ∈ rules.names :=
        hrules.required _ (by simp [RuleName.required])
      refine Asks.quantified .any conditions.zipIdx ?_
      rintro ⟨c, i⟩ _
      refine Asks.quantified .any conditions.zipIdx ?_
      rintro ⟨d, j⟩ _
      by_cases hsame : i = j
      · simp only [hsame, if_true]
        exact Asks.of_ok false
      · simp only [hsame, if_false]
        exact asks_judgeWith hrules hname (Nat.le_refl 1) (Nat.le_refl 1)

theorem rank_lt_of_mem_requestsWithin (hrules : rules.IsCompiled) {helpers : Helpers}
    {inner outer : Request} (hinner : inner ∈ rules.requestsWithin helpers outer) :
    inner.rank < outer.rank := by
  have hle := (asks_answer hrules outer).bounded helpers inner hinner
  have hpos := outer.rank_pos
  omega

/-- One more round of comparisons and rules settles the requests of one more
rank. -/
theorem agreeTo_around (hrules : rules.IsCompiled) {helpers others : Helpers}
    (hagree : Helpers.AgreeTo bound helpers others) :
    Helpers.AgreeTo (bound + 1) (rules.around helpers) (rules.around others) := by
  intro request hrank
  apply (asks_answer hrules request).agrees
  intro inner hinner
  have hlt := rank_lt_of_mem_requestsWithin hrules hinner
  exact hagree inner (by omega)

theorem around_helpers (hrules : rules.IsCompiled) :
    rules.around rules.helpers = rules.helpers := by
  -- requests rank one or two, so the third round answers as the second
  have hzero : Helpers.AgreeTo 0 (rules.helpersTo 1) (rules.helpersTo 0) := Helpers.agreeTo_zero
  have hone : Helpers.AgreeTo 1 (rules.helpersTo 2) (rules.helpersTo 1) :=
    agreeTo_around hrules hzero
  have htwo : Helpers.AgreeTo 2 (rules.helpersTo 3) (rules.helpersTo 2) :=
    agreeTo_around hrules hone
  exact htwo.eq

theorem agreeTo_helpersTo (hrules : rules.IsCompiled) {helpers : Helpers}
    (hhelpers : rules.around helpers = helpers) (depth : Nat) :
    Helpers.AgreeTo depth (rules.helpersTo depth) helpers := by
  induction depth with
  | zero => exact Helpers.agreeTo_zero
  | succ depth ih =>
      have hround := agreeTo_around hrules ih
      rw [hhelpers] at hround
      exact hround

theorem around_eq_iff (hrules : rules.IsCompiled) {helpers : Helpers} :
    rules.around helpers = helpers ↔ helpers = rules.helpers := by
  constructor
  · intro hhelpers
    exact (agreeTo_helpersTo hrules hhelpers Helpers.deepest).eq.symm
  · rintro rfl
    exact around_helpers hrules

theorem helpersTo_eq_helpers (hrules : rules.IsCompiled) {depth : Nat}
    (hdepth : Helpers.deepest ≤ depth) : rules.helpersTo depth = rules.helpers := by
  have hagree : Helpers.AgreeTo depth (rules.helpersTo depth) rules.helpers :=
    agreeTo_helpersTo hrules (around_helpers hrules) depth
  exact (hagree.mono hdepth).eq

theorem isEvaluation_answer (hrules : rules.IsCompiled) (request : Request) (error : RuleError)
    (herror : rules.helpers.answer request = .error error) : error.root.IsEvaluation := by
  -- by induction on the rank: the error is of the answer's own or of a request within it
  rw [← around_helpers hrules] at herror
  rcases (asks_answer hrules request).fails _ _ herror with
    hown | ⟨inner, hinner, cause, hcause, hroot⟩
  · exact hown
  · have hlt := rank_lt_of_mem_requestsWithin hrules hinner
    exact hroot ▸ isEvaluation_answer hrules inner cause hcause
termination_by request.rank

theorem isEvaluation_judge (hrules : rules.IsCompiled) {name : String} (hname : name ∈ rules.names)
    {x y : Subject} {error : RuleError} (herror : rules.judge name x y = .error error) :
    error.root.IsEvaluation := by
  have hasks := asks_judgeWith hrules hname (Nat.le_max_left x.rank y.rank)
    (Nat.le_max_right x.rank y.rank)
  rcases hasks.fails _ _ herror with hown | ⟨request, _, cause, hcause, hroot⟩
  · exact hown
  · exact hroot ▸ isEvaluation_answer hrules request cause hcause

/-! ## Open requests -/

/-- The requests that are being answered at some moment of judging a rule, the
last one first. -/
inductive Opens (rules : RuleSet) (name : String) (x y : Subject) : List Request → Prop
  | judged {request : Request}
      (hrequest : request ∈ rules.judgeRequests rules.helpers name x y) :
      Opens rules name x y [request]
  | within {inner outer : Request} {others : List Request}
      (houter : Opens rules name x y (outer :: others))
      (hinner : inner ∈ rules.requestsWithin rules.helpers outer) :
      Opens rules name x y (inner :: outer :: others)

theorem Opens.pairwise_rank_lt (hrules : rules.IsCompiled) {name : String} {x y : Subject}
    {requests : List Request} (hopens : rules.Opens name x y requests) :
    requests.Pairwise fun inner outer => inner.rank < outer.rank := by
  induction hopens with
  | judged => exact List.pairwise_singleton _ _
  | within _ hinner ih =>
      have hlt := rank_lt_of_mem_requestsWithin hrules hinner
      refine List.pairwise_cons.mpr ⟨List.forall_mem_cons.mpr ⟨hlt, ?_⟩, ih⟩
      intro other hother
      exact Nat.lt_trans hlt ((List.pairwise_cons.mp ih).1 other hother)

/-- Judging a rule of a compiled rule set ends, whatever the comparisons and
the rules called by helpers are.

No depth beyond the deepest changes an answer, the bound on the depth is never
met, and the helpers are the only ones that answer by themselves.  The listed
requests are all that a judgement and an answer depend on; requests made within
one another end after finitely many.  While a helper for lists of conditions is
running no such helper is asked, and while lists of entities are compared no
helper is asked at all. -/
theorem judge_terminates {document : RulesDocument} {rules : RuleSet}
    (hrules : ofDocument document = .ok rules) (name : String) (x y : Subject) :
    (∀ depth, Helpers.deepest ≤ depth →
      rules.judgeWith (rules.helpersTo depth) name x y = rules.judge name x y) ∧
    (∀ error function, rules.judge name x y = .error error →
      error.root ≠ .nestedFunction function) ∧
    (∀ helpers, rules.around helpers = helpers ↔ helpers = rules.helpers) ∧
    (∀ helpers,
      (∀ request ∈ rules.judgeRequests rules.helpers name x y,
        helpers.answer request = rules.helpers.answer request) →
      rules.judgeWith helpers name x y = rules.judge name x y) ∧
    (∀ request helpers,
      (∀ inner ∈ rules.requestsWithin rules.helpers request,
        helpers.answer inner = rules.helpers.answer inner) →
      (rules.around helpers).answer request = rules.helpers.answer request) ∧
    WellFounded (fun inner outer => inner ∈ rules.requestsWithin rules.helpers outer) ∧
    ∀ requests, rules.Opens name x y requests →
      requests.Pairwise fun inner outer => outer.IsAboutConditions ∧ ¬inner.IsAboutConditions := by
  have hcompiled := isCompiled_ofDocument hrules
  refine ⟨?_, ?_, fun _ => around_eq_iff hcompiled, ?_, ?_, ?_, ?_⟩
  · intro depth hdepth
    rw [helpersTo_eq_helpers hcompiled hdepth, judge]
  · intro error function herror hroot
    by_cases hname : name ∈ rules.names
    · have hevaluation := isEvaluation_judge hcompiled hname herror
      rw [hroot] at hevaluation
      exact hevaluation
    · rw [judge, judgeWith_of_not_mem hname] at herror
      cases herror
      cases hroot
  · intro helpers hagree
    by_cases hname : name ∈ rules.names
    · exact (asks_judgeWith hcompiled hname (Nat.le_max_left x.rank y.rank)
        (Nat.le_max_right x.rank y.rank)).agrees _ _ hagree
    · rw [judge, judgeWith_of_not_mem hname, judgeWith_of_not_mem hname]
  · intro request helpers hagree
    rw [(asks_answer hcompiled request).agrees _ _ hagree, around_helpers hcompiled]
  · exact Subrelation.wf (rank_lt_of_mem_requestsWithin hcompiled)
      (InvImage.wf Request.rank Nat.lt_wfRel.wf)
  · intro requests hopens
    exact (hopens.pairwise_rank_lt hcompiled).imp Request.isAboutConditions_of_rank_lt

def lighting : Condition :=
  ⟨.system, ⟨"light", false, false⟩, [.system], [], []⟩

def lightingOnLighting : Requirement :=
  { lighting with id := 1, group := 0, events := [lighting] }

/-- Overlapping events are compared by a helper for conditions, in which inputs
are compared by the helper for entities. -/
theorem judge_terminates_eventOverlap :
    let x : Subject := .requirement lightingOnLighting
    let inner : Request := .entitySetInclude [.system] [.system]
    let outer : Request := .conditionSetInclude [lighting] [lighting]
    (∃ document, ofDocument document = .ok BuiltinRules.ruleSet) ∧
      BuiltinRules.ruleSet.Opens "event overlap" x x [inner, outer] ∧
        outer.IsAboutConditions ∧ ¬inner.IsAboutConditions := by
  intro x inner outer
  obtain ⟨document, _, hrules⟩ :=
    BuiltinRules.exists_document_of_compiled? BuiltinRules.compiled?_builtinText
  have houter : outer ∈
      BuiltinRules.ruleSet.judgeRequests BuiltinRules.ruleSet.helpers "event overlap" x x := by
    decide +kernel
  have hinner : inner ∈
      BuiltinRules.ruleSet.requestsWithin BuiltinRules.ruleSet.helpers outer := by
    decide +kernel
  have hopens := Opens.within (Opens.judged houter) hinner
  obtain ⟨_, _, _, _, _, _, hnesting⟩ := judge_terminates hrules "event overlap" x x
  exact ⟨⟨document, hrules⟩, hopens,
    (List.pairwise_cons.mp (hnesting _ hopens)).1 outer (List.mem_singleton_self _)⟩

end RuleSet

end ReqConflict
