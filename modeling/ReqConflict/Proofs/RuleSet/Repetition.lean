import Mathlib.Data.List.NodupEquivFin
import ReqConflict.Proofs.Decides
import ReqConflict.Proofs.Detection.Failure

/-!
# Conditions that are repeated

Whether a list of conditions is contradictory is asked of all pairs of different
positions, so a condition that the list holds twice is judged against itself.
Where the rule is false of it, the list is as contradictory as it would be
without the repetition, and two different conditions contradict each other if it
is.  Where the rule is not, a list of nothing but this condition gets the answer
of the rule.
-/

namespace ReqConflict

namespace Quantifier

variable {α β ε : Type} {quantifier : Quantifier} {test : α → Except ε Bool} {items : List α}

theorem over_congr {other : α → Except ε Bool} (hsame : ∀ item ∈ items, test item = other item) :
    quantifier.over test items = quantifier.over other items := by
  induction items with
  | nil => rfl
  | cons item items ih =>
      obtain ⟨hitem, hitems⟩ := List.forall_mem_cons.mp hsame
      rw [Quantifier.over, Quantifier.over, hitem, ih hitems]

theorem over_map (f : β → α) (items : List β) :
    quantifier.over test (items.map f) = quantifier.over (fun item => test (f item)) items := by
  induction items with
  | nil => rfl
  | cons item items ih => rw [List.map_cons, Quantifier.over, Quantifier.over, ih]

/-- A test that does not look at positions. -/
theorem over_zipIdx (test : α → Except ε Bool) (items : List α) :
    quantifier.over (fun placed => test placed.1) items.zipIdx = quantifier.over test items := by
  rw [← over_map, List.zipIdx_map_fst]

theorem exists_of_any_over (htrue : Quantifier.any.over test items = .ok true) :
    ∃ item ∈ items, test item = .ok true := by
  induction items with
  | nil => cases htrue
  | cons item items ih =>
      rw [any_over_cons] at htrue
      obtain ⟨value, hitem, hrest⟩ := bind_eq_ok_iff.mp htrue
      cases value with
      | true => exact ⟨item, List.mem_cons_self, hitem⟩
      | false =>
          obtain ⟨other, hother, htest⟩ := ih hrest
          exact ⟨other, List.mem_cons_of_mem item hother, htest⟩

theorem any_over_eq_ok_false_iff :
    Quantifier.any.over test items = .ok false ↔ ∀ item ∈ items, test item = .ok false := by
  induction items with
  | nil => simp [Quantifier.over]
  | cons item items ih =>
      rw [any_over_cons, bind_eq_ok_iff, List.forall_mem_cons, ← ih]
      constructor
      · rintro ⟨value, hitem, hrest⟩
        cases value with
        | true => cases hrest
        | false => exact ⟨hitem, hrest⟩
      · rintro ⟨hitem, hitems⟩
        exact ⟨false, hitem, hitems⟩

variable [DecidableEq α]

/-- An item of which the test is false can be left out. -/
theorem any_over_filter_ne {item : α} (hitem : test item = .ok false) (items : List α) :
    Quantifier.any.over test (items.filter fun other => !other == item) =
      Quantifier.any.over test items := by
  induction items with
  | nil => rfl
  | cons first items ih =>
      by_cases hfirst : first = item
      · rw [List.filter_cons_of_neg (by simp [hfirst]), ih, any_over_cons, hfirst, hitem]
        rfl
      · rw [List.filter_cons_of_pos (by simp [hfirst]), any_over_cons, any_over_cons, ih]

/-- An item that comes again does not decide, as it would have decided before. -/
theorem any_over_eraseDups (items : List α) :
    Quantifier.any.over test items.eraseDups = Quantifier.any.over test items := by
  cases items with
  | nil => rfl
  | cons item items =>
      have hshorter := List.length_filter_le (fun other => !other == item) items
      rw [List.eraseDups_cons, any_over_cons, any_over_cons,
        any_over_eraseDups (items.filter fun other => !other == item)]
      cases htest : test item with
      | error error => rfl
      | ok value =>
          cases value with
          | true => rfl
          | false => exact any_over_filter_ne htest items
termination_by items.length

end Quantifier

/-! ## Pairs of positions -/

section Apart

variable {α ε : Type} {test : α → α → Except ε Bool} {items others : List α} {c d : α}
  {i j : Nat}

/-- Whether a test is true of the items at some two different positions. -/
def anyApart (test : α → α → Except ε Bool) (items : List α) : Except ε Bool :=
  Quantifier.any.over (fun (c, i) =>
    Quantifier.any.over (fun (d, j) => if i = j then .ok false else test c d) items.zipIdx)
    items.zipIdx

theorem exists_mem_zipIdx (hc : c ∈ items) : ∃ i, (c, i) ∈ items.zipIdx := by
  obtain ⟨i, hi⟩ := List.mem_iff_getElem?.mp hc
  exact ⟨i, List.mem_zipIdx_iff_getElem?.mpr hi⟩

theorem eq_of_mem_zipIdx (hi : (c, i) ∈ items.zipIdx) (hj : (d, i) ∈ items.zipIdx) : c = d := by
  rw [List.mem_zipIdx_iff_getElem?] at hi hj
  exact Option.some.inj (hi.symm.trans hj)

/-- Where the answer is false, so is the test of every two different items. -/
theorem eq_false_of_anyApart (hfalse : anyApart test items = .ok false) (hc : c ∈ items)
    (hd : d ∈ items) (hne : c ≠ d) : test c d = .ok false := by
  obtain ⟨i, hi⟩ := exists_mem_zipIdx hc
  obtain ⟨j, hj⟩ := exists_mem_zipIdx hd
  have hrow := Quantifier.any_over_eq_ok_false_iff.mp hfalse (c, i) hi
  have hpair := Quantifier.any_over_eq_ok_false_iff.mp hrow (d, j) hj
  have hapart : i ≠ j := by
    rintro rfl
    exact hne (eq_of_mem_zipIdx hi hj)
  simpa [hapart] using hpair

/-- A list of nothing but one item, at least twice, gets the answer for the item
and itself. -/
theorem anyApart_replicate (c : α) (n : Nat) :
    anyApart test (List.replicate (n + 2) c) = test c c := by
  have hsecond : (List.replicate (n + 2) c).zipIdx =
      (c, 0) :: (c, 1) :: (List.replicate n c).zipIdx 2 := by
    rw [List.replicate_succ, List.replicate_succ, List.zipIdx_cons, List.zipIdx_cons]
  cases htest : test c c with
  | error error =>
      rw [anyApart, hsecond]
      simp [Quantifier.any_over_cons, htest, bind, Except.bind]
  | ok value =>
      cases value with
      | true =>
          rw [anyApart, hsecond]
          simp [Quantifier.any_over_cons, htest, bind, Except.bind, pure, Except.pure]
      | false =>
          have honly : ∀ p ∈ (List.replicate (n + 2) c).zipIdx, p.1 = c := by
            intro p hp
            exact List.eq_of_mem_replicate (List.fst_mem_of_mem_zipIdx hp)
          rw [anyApart, Quantifier.any_over_eq_ok_false_iff]
          rintro ⟨d, i⟩ hi
          rw [Quantifier.any_over_eq_ok_false_iff]
          rintro ⟨e, j⟩ hj
          have hd : d = c := honly (d, i) hi
          have he : e = c := honly (e, j) hj
          have hpair : (if i = j then .ok false else test d e) = .ok false := by
            rw [hd, he, htest, ite_self]
          exact hpair

variable [DecidableEq α]

theorem two_le_count_of_lt (hi : (c, i) ∈ items.zipIdx) (hj : (c, j) ∈ items.zipIdx)
    (hlt : i < j) : 2 ≤ items.count c := by
  rw [List.mem_zipIdx_iff_getElem?] at hi hj
  obtain ⟨hilt, hi⟩ := List.getElem?_eq_some_iff.mp hi
  obtain ⟨hjlt, hj⟩ := List.getElem?_eq_some_iff.mp hj
  rw [← List.duplicate_iff_two_le_count, List.duplicate_iff_exists_distinct_get]
  exact ⟨⟨i, hilt⟩, ⟨j, hjlt⟩, hlt, hi.symm, hj.symm⟩

/-- An item at two positions is there twice. -/
theorem two_le_count (hi : (c, i) ∈ items.zipIdx) (hj : (c, j) ∈ items.zipIdx) (hne : i ≠ j) :
    2 ≤ items.count c := by
  rcases Nat.lt_or_gt_of_ne hne with hlt | hlt
  · exact two_le_count_of_lt hi hj hlt
  · exact two_le_count_of_lt hj hi hlt

/-- The test is true of two different items, or of one that is there twice. -/
theorem exists_of_anyApart (htrue : anyApart test items = .ok true) :
    (∃ c ∈ items, ∃ d ∈ items, c ≠ d ∧ test c d = .ok true) ∨
      ∃ c, 2 ≤ items.count c ∧ test c c = .ok true := by
  obtain ⟨⟨c, i⟩, hi, hrow⟩ := Quantifier.exists_of_any_over htrue
  obtain ⟨⟨d, j⟩, hj, hpair⟩ := Quantifier.exists_of_any_over hrow
  have hne : i ≠ j := by
    rintro rfl
    simp at hpair
  have htest : test c d = .ok true := by simpa [hne] using hpair
  by_cases hsame : c = d
  · subst hsame
    exact Or.inr ⟨c, two_le_count hi hj hne, htest⟩
  · exact Or.inl ⟨c, List.fst_mem_of_mem_zipIdx hi, d, List.fst_mem_of_mem_zipIdx hj, hsame, htest⟩

/-- The test of two different items, which is false of an item and itself. -/
def apart (test : α → α → Except ε Bool) (c d : α) : Except ε Bool :=
  if c = d then .ok false else test c d

/-- If the test is false of what is repeated, positions play no part. -/
theorem anyApart_eq_over (hrepeated : ∀ c, 2 ≤ items.count c → test c c = .ok false) :
    anyApart test items =
      Quantifier.any.over (fun c => Quantifier.any.over (apart test c) items) items := by
  have hpair : ∀ p ∈ items.zipIdx, ∀ q ∈ items.zipIdx,
      (if p.2 = q.2 then .ok false else test p.1 q.1) = apart test p.1 q.1 := by
    rintro ⟨c, i⟩ hi ⟨d, j⟩ hj
    by_cases hplace : i = j
    · subst hplace
      simp [apart, eq_of_mem_zipIdx hi hj]
    · by_cases hsame : c = d
      · subst hsame
        simp [apart, hplace, hrepeated c (two_le_count hi hj hplace)]
      · simp [apart, hplace, hsame]
  have hrow : ∀ p ∈ items.zipIdx,
      Quantifier.any.over (fun q => if p.2 = q.2 then .ok false else test p.1 q.1) items.zipIdx =
        Quantifier.any.over (apart test p.1) items := by
    intro p hp
    rw [Quantifier.over_congr (hpair p hp), Quantifier.over_zipIdx (apart test p.1)]
  have hrows : anyApart test items = Quantifier.any.over
      (fun p => Quantifier.any.over (apart test p.1) items) items.zipIdx :=
    Quantifier.over_congr hrow
  rw [hrows, Quantifier.over_zipIdx fun c => Quantifier.any.over (apart test c) items]

/-- What is repeated behind its first place changes neither the answer nor the
error. -/
theorem anyApart_eq_of_eraseDups_eq
    (hitems : ∀ c, 2 ≤ items.count c → test c c = .ok false)
    (hothers : ∀ c, 2 ≤ others.count c → test c c = .ok false)
    (hsame : items.eraseDups = others.eraseDups) : anyApart test items = anyApart test others := by
  have hrow : ∀ c, Quantifier.any.over (apart test c) items =
      Quantifier.any.over (apart test c) others := by
    intro c
    rw [← Quantifier.any_over_eraseDups items, hsame, Quantifier.any_over_eraseDups]
  rw [anyApart_eq_over hitems, anyApart_eq_over hothers, funext hrow,
    ← Quantifier.any_over_eraseDups items, hsame, Quantifier.any_over_eraseDups]

theorem anyApart_ne_ok_true (hrepeated : ∀ c, 2 ≤ items.count c → test c c ≠ .ok true)
    (hsubset : ∀ c ∈ items, c ∈ others) (hfalse : anyApart test others = .ok false) :
    anyApart test items ≠ .ok true := by
  intro htrue
  rcases exists_of_anyApart htrue with ⟨c, hc, d, hd, hne, htest⟩ | ⟨c, hcount, htest⟩
  · rw [eq_false_of_anyApart hfalse (hsubset c hc) (hsubset d hd) hne] at htest
    cases htest
  · exact hrepeated c hcount htest

/-- Two lists of the same items do not get two different answers, in whatever
order and however often they hold these. -/
theorem anyApart_eq_of_mem_iff {answer answer' : Bool}
    (hitems : ∀ c, 2 ≤ items.count c → test c c ≠ .ok true)
    (hothers : ∀ c, 2 ≤ others.count c → test c c ≠ .ok true)
    (hsame : ∀ c, c ∈ items ↔ c ∈ others) (hanswer : anyApart test items = .ok answer)
    (hanswer' : anyApart test others = .ok answer') : answer = answer' := by
  have hforth : ∀ c ∈ items, c ∈ others := fun c => (hsame c).mp
  have hback : ∀ c ∈ others, c ∈ items := fun c => (hsame c).mpr
  cases answer with
  | false =>
      cases answer' with
      | false => rfl
      | true => exact absurd hanswer' (anyApart_ne_ok_true hothers hback hanswer)
  | true =>
      cases answer' with
      | false => exact absurd hanswer (anyApart_ne_ok_true hitems hforth hanswer')
      | true => rfl

end Apart

namespace RuleSet

variable {document : RulesDocument} {rules : RuleSet}

theorem conditionContradict_eq_anyApart (hrules : ofDocument document = .ok rules)
    (conditions : List Condition) :
    rules.helpers.conditionContradict conditions =
      anyApart
        (fun c d => rules.judge RuleName.conditionContradict (.condition c) (.condition d))
        conditions := by
  rw [← around_helpers (isCompiled_ofDocument hrules)]
  rfl

/-- When a list of conditions is contradictory, in spite of repetitions.  If it
is, two different conditions contradict each other, or one that is repeated
contradicts itself.  As long as the rule is false of what is repeated, it does
not matter behind its first place, and in no place for an answer that is no
error.  A condition is never contradictory alone; repeated, it is just if the
rule says so of it and itself. -/
theorem conditionContradict_of_repeated (hrules : ofDocument document = .ok rules) :
    let contradict := rules.helpers.conditionContradict
    let judged := fun c d =>
      rules.judge RuleName.conditionContradict (.condition c) (.condition d)
    (∀ conditions, contradict conditions = .ok true →
      (∃ c ∈ conditions, ∃ d ∈ conditions, c ≠ d ∧ judged c d = .ok true) ∨
        ∃ c, 2 ≤ conditions.count c ∧ judged c c = .ok true) ∧
    (∀ conditions others : List Condition,
      (∀ c, 2 ≤ conditions.count c ∨ 2 ≤ others.count c → judged c c = .ok false) →
        conditions.eraseDups = others.eraseDups → contradict conditions = contradict others) ∧
    (∀ (conditions others : List Condition) (answer answer' : Bool),
      (∀ c, 2 ≤ conditions.count c ∨ 2 ≤ others.count c → judged c c ≠ .ok true) →
        (∀ c, c ∈ conditions ↔ c ∈ others) → contradict conditions = .ok answer →
          contradict others = .ok answer' → answer = answer') ∧
    ∀ c, contradict [c] = .ok false ∧
      ∀ n, contradict (List.replicate (n + 2) c) = judged c c := by
  intro contradict judged
  have hcontradict : ∀ conditions, contradict conditions = anyApart judged conditions :=
    conditionContradict_eq_anyApart hrules
  simp only [hcontradict]
  refine ⟨fun _ htrue => exists_of_anyApart htrue, ?_, ?_, fun c => ⟨rfl, anyApart_replicate c⟩⟩
  · intro conditions others hrepeated hsame
    exact anyApart_eq_of_eraseDups_eq (fun c hcount => hrepeated c (Or.inl hcount))
      (fun c hcount => hrepeated c (Or.inr hcount)) hsame
  · intro conditions others answer answer' hrepeated hsame hanswer hanswer'
    exact anyApart_eq_of_mem_iff (fun c hcount => hrepeated c (Or.inl hcount))
      (fun c hcount => hrepeated c (Or.inr hcount)) hsame hanswer hanswer'

/-- A document by which all conditions contradict each other. -/
def rivals : RulesDocument :=
  { undecided with
    operators :=
      ⟨[("equal", ⟨[("entity", "a == a")], by decide⟩),
          ("include", ⟨[("entity", "a == a")], by decide⟩)], by decide⟩ }

theorem judge_rivals :
    ∃ rules, ofDocument rivals = .ok rules ∧
      rules.judge RuleName.conditionContradict (.condition lighting) (.condition lighting) =
        .ok true := by
  have hjudged : (ofDocument rivals).toOption.map (fun rules =>
      (rules.judge RuleName.conditionContradict (.condition lighting)
        (.condition lighting)).toOption) = some (some true) := by
    decide +kernel
  obtain ⟨rules, hrules, hjudged⟩ := Option.map_eq_some_iff.mp hjudged
  rw [toOption_eq_some_iff] at hrules hjudged
  exact ⟨rules, hrules, hjudged⟩

theorem conditionContradict_of_repeated_lighting :
    ∃ rules, ofDocument rivals = .ok rules ∧
      rules.helpers.conditionContradict [lighting] = .ok false ∧
      rules.helpers.conditionContradict [lighting, lighting] = .ok true := by
  obtain ⟨rules, hrules, hjudged⟩ := judge_rivals
  obtain ⟨_, _, _, hrepeated⟩ := conditionContradict_of_repeated hrules
  exact ⟨rules, hrules, (hrepeated lighting).1, ((hrepeated lighting).2 0).trans hjudged⟩

/-- A contradictory list need not hold two different conditions that contradict
each other: it may be contradictory by repeating one. -/
theorem not_forall_exists_ne :
    ¬ ∀ (document : RulesDocument) (rules : RuleSet), ofDocument document = .ok rules →
      ∀ conditions, rules.helpers.conditionContradict conditions = .ok true →
        ∃ c ∈ conditions, ∃ d ∈ conditions, c ≠ d ∧
          rules.judge RuleName.conditionContradict (.condition c) (.condition d) = .ok true := by
  intro hdifferent
  obtain ⟨rules, hrules, hjudged⟩ := judge_rivals
  have hcontradict : rules.helpers.conditionContradict (List.replicate 2 lighting) = .ok true := by
    rw [conditionContradict_eq_anyApart hrules, anyApart_replicate, hjudged]
  obtain ⟨c, hc, d, hd, hne, _⟩ := hdifferent rivals rules hrules _ hcontradict
  exact hne ((List.eq_of_mem_replicate hc).trans (List.eq_of_mem_replicate hd).symm)

end RuleSet

end ReqConflict
