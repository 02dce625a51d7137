import ReqConflict.Detection
import ReqConflict.Proofs.Interlock.Route
import ReqConflict.Proofs.Outcome

/-!
# What a scan finds

A scan adds up what its pairs give, one after the other: the records of direct
conflicts, and the edges of two graphs.  What a pair gives is determined by
which rules hold for it, so that a scan that succeeds is described without
following its steps.  A scan that fails does so with the error of a rule that
it judges on one of the pairs.
-/

namespace ReqConflict

namespace Scan

variable {placed : List Placed} {requirements : List Requirement} {x y : Placed}

theorem mem_pairs_iff (hplaced : placed.Pairwise fun x y => x.2 < y.2) :
    (x, y) ∈ pairs placed ↔
      x ∈ placed ∧ y ∈ placed ∧ x.2 < y.2 ∧ x.1.isSibling y.1 = false := by
  induction placed with
  | nil => simp [pairs]
  | cons z others ih =>
      obtain ⟨hz, hothers⟩ := List.pairwise_cons.mp hplaced
      have hcons : (x, y) ∈ pairs (z :: others) ↔
          (x = z ∧ y ∈ others ∧ x.1.isSibling y.1 = false) ∨ (x, y) ∈ pairs others := by
        simp only [pairs, List.mem_append, List.mem_map, List.mem_filter, Bool.not_eq_true',
          Prod.mk.injEq]
        constructor
        · rintro (⟨other, ⟨hother, hsibling⟩, rfl, rfl⟩ | hpair)
          · exact Or.inl ⟨rfl, hother, hsibling⟩
          · exact Or.inr hpair
        · rintro (⟨rfl, hother, hsibling⟩ | hpair)
          · exact Or.inl ⟨y, ⟨hother, hsibling⟩, rfl, rfl⟩
          · exact Or.inr hpair
      rw [hcons, ih hothers, List.mem_cons, List.mem_cons]
      constructor
      · rintro (⟨rfl, hy, hsibling⟩ | ⟨hx, hy, hlt, hsibling⟩)
        · exact ⟨Or.inl rfl, Or.inr hy, hz y hy, hsibling⟩
        · exact ⟨Or.inr hx, Or.inr hy, hlt, hsibling⟩
      · rintro ⟨rfl | hx, rfl | hy, hlt, hsibling⟩
        · exact absurd hlt (Nat.lt_irrefl _)
        · exact Or.inl ⟨rfl, hy, hsibling⟩
        · exact absurd hlt (Nat.lt_asymm (hz x hx))
        · exact Or.inr ⟨hx, hy, hlt, hsibling⟩

/-- Pairs come in the order of their first positions, then of their second. -/
theorem pairwise_pairs (hplaced : placed.Pairwise fun x y => x.2 < y.2) :
    (pairs placed).Pairwise fun p q => p.1.2 < q.1.2 ∨ p.1.2 = q.1.2 ∧ p.2.2 < q.2.2 := by
  induction placed with
  | nil => exact List.Pairwise.nil
  | cons z others ih =>
      obtain ⟨hz, hothers⟩ := List.pairwise_cons.mp hplaced
      refine List.pairwise_append.mpr ⟨?_, ih hothers, ?_⟩
      · rw [List.pairwise_map]
        apply (hothers.filter _).imp
        intro x y hlt
        exact Or.inr ⟨rfl, hlt⟩
      · intro p hp q hq
        obtain ⟨x, _, rfl⟩ := List.mem_map.mp hp
        have hlater : q.1 ∈ others := ((mem_pairs_iff hothers).mp hq).1
        exact Or.inl (hz q.1 hlater)

theorem pairwise_zipIdx (requirements : List Requirement) :
    requirements.zipIdx.Pairwise fun x y => x.2 < y.2 := by
  have hpositions : (requirements.zipIdx.map Prod.snd).Pairwise (· < ·) := by
    rw [List.zipIdx_map_snd]
    exact List.pairwise_lt_range'
  exact List.pairwise_map.mp hpositions

theorem mem_pairs_zipIdx_iff :
    (x, y) ∈ pairs requirements.zipIdx ↔
      requirements[x.2]? = some x.1 ∧ requirements[y.2]? = some y.1 ∧ x.2 < y.2 ∧
        x.1.isSibling y.1 = false := by
  rw [mem_pairs_iff (pairwise_zipIdx requirements), List.mem_zipIdx_iff_getElem?,
    List.mem_zipIdx_iff_getElem?]

end Scan

namespace InterlockGraph

def addEdges (graph : InterlockGraph) (edges : List (Nat × Nat)) : InterlockGraph :=
  edges.foldl (fun graph edge => graph.addEdge edge.1 edge.2) graph

variable {graph : InterlockGraph} {edges : List (Nat × Nat)}

@[simp] theorem addEdges_nil (graph : InterlockGraph) : graph.addEdges [] = graph :=
  rfl

@[simp] theorem addEdges_cons (graph : InterlockGraph) (edge : Nat × Nat)
    (edges : List (Nat × Nat)) :
    graph.addEdges (edge :: edges) = (graph.addEdge edge.1 edge.2).addEdges edges :=
  rfl

theorem addEdges_append (graph : InterlockGraph) (edges others : List (Nat × Nat)) :
    graph.addEdges (edges ++ others) = (graph.addEdges edges).addEdges others :=
  List.foldl_append

@[simp] theorem nodeCount_addEdges (graph : InterlockGraph) (edges : List (Nat × Nat)) :
    (graph.addEdges edges).nodeCount = graph.nodeCount := by
  induction edges generalizing graph with
  | nil => rfl
  | cons edge edges ih => rw [addEdges_cons, ih, nodeCount_addEdge]

theorem successors_addEdges (hedges : ∀ edge ∈ edges, edge.1 < graph.nodeCount) (node : Nat) :
    (graph.addEdges edges).successors node =
      graph.successors node ++ (edges.filter fun edge => edge.1 = node).map Prod.snd := by
  induction edges generalizing graph with
  | nil => simp
  | cons edge edges ih =>
      obtain ⟨hedge, hothers⟩ := List.forall_mem_cons.mp hedges
      have hnodes : ∀ other ∈ edges, other.1 < (graph.addEdge edge.1 edge.2).nodeCount := by
        simpa using hothers
      rw [addEdges_cons, ih hnodes, successors_addEdge graph edge.2 node hedge]
      by_cases hsource : node = edge.1
      · simp [hsource]
      · simp [hsource, Ne.symm hsource]

theorem edge_addEdges_iff (hedges : ∀ edge ∈ edges, edge.1 < graph.nodeCount) {i j : Nat} :
    (graph.addEdges edges).Edge i j ↔ graph.Edge i j ∨ (i, j) ∈ edges := by
  simp [Edge, successors_addEdges hedges]

end InterlockGraph

namespace Scan

variable (confirms : ConflictKind → Placed → Placed → Bool)

def symmetricRecord (x y : Placed) (kind : ConflictKind) : Option (Conflict Nat) :=
  if confirms kind x y then some ⟨kind, [x.2, y.2]⟩ else none

def directionalRecord (x y : Placed) (kind : ConflictKind) : Option (Conflict Nat) :=
  if confirms kind x y then some ⟨kind, [x.2, y.2]⟩
  else if confirms kind y x then some ⟨kind, [y.2, x.2]⟩ else none

/-- The records of a pair for which these rules hold. -/
def records (pair : Placed × Placed) : List (Conflict Nat) :=
  ConflictKind.symmetric.filterMap (symmetricRecord confirms pair.1 pair.2) ++
    ConflictKind.directional.filterMap (directionalRecord confirms pair.1 pair.2)

/-- The edges of a pair for which these rules hold. -/
def edges (kind : ConflictKind) (pair : Placed × Placed) : List (Nat × Nat) :=
  (if confirms kind pair.1 pair.2 then [(pair.1.2, pair.2.2)] else []) ++
    if confirms kind pair.2 pair.1 then [(pair.2.2, pair.1.2)] else []

def extend (scan : Scan) (pairs : List (Placed × Placed)) : Scan where
  conflicts := scan.conflicts ++ pairs.flatMap (records confirms)
  operationEvent :=
    scan.operationEvent.addEdges (pairs.flatMap (edges confirms .operationEventInterlock))
  inputOutput := scan.inputOutput.addEdges (pairs.flatMap (edges confirms .inputOutputInterlock))

theorem extend_cons (scan : Scan) (pair : Placed × Placed) (pairs : List (Placed × Placed)) :
    scan.extend confirms (pair :: pairs) =
      (scan.extend confirms [pair]).extend confirms pairs := by
  simp [extend, InterlockGraph.addEdges_append]

end Scan

/-! ## Steps of a scan -/

def Scan.add (scan : Scan) (records : List (Conflict Nat)) : Scan :=
  { scan with conflicts := scan.conflicts ++ records }

namespace RuleSet

variable {rules : RuleSet} {requirements : List Requirement} {x y : Placed} {scan next : Scan}

/-- The rule of a kind is judged to hold. -/
def confirms (rules : RuleSet) (kind : ConflictKind) (x y : Placed) : Bool :=
  match rules.holds kind x y with
  | .ok truth => truth
  | .error _ => false

theorem confirms_of_holds {kind : ConflictKind} {truth : Bool}
    (hholds : rules.holds kind x y = .ok truth) : rules.confirms kind x y = truth := by
  rw [confirms, hholds]

theorem eq_of_scanSymmetric {kind : ConflictKind}
    (hscan : rules.scanSymmetric x y scan kind = .ok next) :
    next = scan.add (Scan.symmetricRecord rules.confirms x y kind).toList := by
  obtain ⟨truth, htruth, hnext⟩ := bind_eq_ok_iff.mp hscan
  rw [Scan.symmetricRecord, confirms_of_holds htruth]
  cases truth with
  | true =>
      cases hnext
      rfl
  | false =>
      cases hnext
      simp [Scan.add]

theorem eq_of_scanDirectional {kind : ConflictKind}
    (hscan : rules.scanDirectional x y scan kind = .ok next) :
    next = scan.add (Scan.directionalRecord rules.confirms x y kind).toList := by
  obtain ⟨forth, hforth, hscan⟩ := bind_eq_ok_iff.mp hscan
  rw [Scan.directionalRecord, confirms_of_holds hforth]
  cases forth with
  | true =>
      cases hscan
      rfl
  | false =>
      obtain ⟨back, hback, hnext⟩ := bind_eq_ok_iff.mp hscan
      rw [confirms_of_holds hback]
      cases back with
      | true =>
          cases hnext
          rfl
      | false =>
          cases hnext
          simp [Scan.add]

/-- The induction is on the kinds: each adds its record, if it has one, behind
those of the kinds before it. -/
theorem eq_of_foldlM_record {step : Scan → ConflictKind → Except RuleError Scan}
    {record : ConflictKind → Option (Conflict Nat)} {kinds : List ConflictKind}
    (hscan : kinds.foldlM step scan = .ok next)
    (hstep : ∀ scan kind next, step scan kind = .ok next →
      next = scan.add (record kind).toList) :
    next = scan.add (kinds.filterMap record) := by
  induction kinds generalizing scan with
  | nil =>
      cases hscan
      simp [Scan.add]
  | cons kind kinds ih =>
      rw [List.foldlM_cons] at hscan
      obtain ⟨between, hbetween, hscan⟩ := bind_eq_ok_iff.mp hscan
      have hfirst := hstep scan kind between hbetween
      rw [ih hscan, hfirst]
      cases hrecord : record kind with
      | none => simp [Scan.add, hrecord]
      | some found => simp [Scan.add, hrecord]

theorem eq_of_scanEdges {kind : ConflictKind} {graph result : InterlockGraph}
    (hscan : rules.scanEdges kind x y graph = .ok result) :
    result = graph.addEdges (Scan.edges rules.confirms kind (x, y)) := by
  obtain ⟨forth, hforth, hscan⟩ := bind_eq_ok_iff.mp hscan
  obtain ⟨back, hback, hresult⟩ := bind_eq_ok_iff.mp hscan
  rw [Scan.edges, confirms_of_holds hforth, confirms_of_holds hback]
  cases forth <;> cases back <;> cases hresult <;> rfl

theorem eq_of_scanPair {pair : Placed × Placed} (hscan : rules.scanPair scan pair = .ok next) :
    next = scan.extend rules.confirms [pair] := by
  obtain ⟨x, y⟩ := pair
  obtain ⟨symmetric, hsymmetric, hscan⟩ := bind_eq_ok_iff.mp hscan
  obtain ⟨directional, hdirectional, hscan⟩ := bind_eq_ok_iff.mp hscan
  obtain ⟨operationEvent, hoperationEvent, hscan⟩ := bind_eq_ok_iff.mp hscan
  obtain ⟨inputOutput, hinputOutput, hnext⟩ := bind_eq_ok_iff.mp hscan
  have hsymmetric := eq_of_foldlM_record hsymmetric fun _ _ _ => eq_of_scanSymmetric
  have hdirectional := eq_of_foldlM_record hdirectional fun _ _ _ => eq_of_scanDirectional
  have hoperationEvent := eq_of_scanEdges hoperationEvent
  have hinputOutput := eq_of_scanEdges hinputOutput
  cases hnext
  simp [Scan.extend, Scan.records, Scan.add, hsymmetric, hdirectional, hoperationEvent,
    hinputOutput]

theorem eq_of_foldlM_scanPair {pairs : List (Placed × Placed)}
    (hscan : pairs.foldlM rules.scanPair scan = .ok next) :
    next = scan.extend rules.confirms pairs := by
  induction pairs generalizing scan with
  | nil =>
      cases hscan
      simp [Scan.extend]
  | cons pair pairs ih =>
      rw [List.foldlM_cons] at hscan
      obtain ⟨between, hbetween, hscan⟩ := bind_eq_ok_iff.mp hscan
      rw [ih hscan, Scan.extend_cons, eq_of_scanPair hbetween]

/-- A scan that succeeds adds up what all its pairs give. -/
theorem eq_of_scan (hscan : rules.scan requirements = .ok scan) :
    scan = (Scan.start requirements.length).extend rules.confirms
      (Scan.pairs requirements.zipIdx) :=
  eq_of_foldlM_scanPair hscan

/-! ## Failures -/

/-- Judging some kind on two requirements, in either order, gives an error. -/
def Fails (rules : RuleSet) (x y : Placed) (error : RuleError) : Prop :=
  ∃ kind, rules.holds kind x y = .error error ∨ rules.holds kind y x = .error error

variable {kind : ConflictKind} {error : RuleError}

theorem fails_of_scanSymmetric (hscan : rules.scanSymmetric x y scan kind = .error error) :
    rules.Fails x y error := by
  rcases bind_eq_error_iff.mp hscan with hforth | ⟨_, _, hresult⟩
  · exact ⟨kind, Or.inl hforth⟩
  · cases hresult

theorem fails_of_scanDirectional (hscan : rules.scanDirectional x y scan kind = .error error) :
    rules.Fails x y error := by
  rcases bind_eq_error_iff.mp hscan with hforth | ⟨forth, _, hscan⟩
  · exact ⟨kind, Or.inl hforth⟩
  cases forth with
  | true => cases hscan
  | false =>
      rcases bind_eq_error_iff.mp hscan with hback | ⟨_, _, hresult⟩
      · exact ⟨kind, Or.inr hback⟩
      · cases hresult

theorem fails_of_scanEdges {graph : InterlockGraph}
    (hscan : rules.scanEdges kind x y graph = .error error) : rules.Fails x y error := by
  rcases bind_eq_error_iff.mp hscan with hforth | ⟨_, _, hscan⟩
  · exact ⟨kind, Or.inl hforth⟩
  rcases bind_eq_error_iff.mp hscan with hback | ⟨_, _, hresult⟩
  · exact ⟨kind, Or.inr hback⟩
  · cases hresult

theorem fails_of_scanPair (hscan : rules.scanPair scan (x, y) = .error error) :
    rules.Fails x y error := by
  rcases bind_eq_error_iff.mp hscan with hsymmetric | ⟨_, _, hscan⟩
  · obtain ⟨_, _, _, hkind⟩ := exists_of_foldlM_eq_error hsymmetric
    exact fails_of_scanSymmetric hkind
  rcases bind_eq_error_iff.mp hscan with hdirectional | ⟨_, _, hscan⟩
  · obtain ⟨_, _, _, hkind⟩ := exists_of_foldlM_eq_error hdirectional
    exact fails_of_scanDirectional hkind
  rcases bind_eq_error_iff.mp hscan with hoperationEvent | ⟨_, _, hscan⟩
  · exact fails_of_scanEdges hoperationEvent
  rcases bind_eq_error_iff.mp hscan with hinputOutput | ⟨_, _, hresult⟩
  · exact fails_of_scanEdges hinputOutput
  · cases hresult

/-- A scan that fails does so with the error of a rule on one of its pairs. -/
theorem exists_fails_of_scan (hscan : rules.scan requirements = .error error) :
    ∃ pair ∈ Scan.pairs requirements.zipIdx, rules.Fails pair.1 pair.2 error := by
  obtain ⟨pair, hpair, _, hpairScan⟩ := exists_of_foldlM_eq_error hscan
  exact ⟨pair, hpair, fails_of_scanPair hpairScan⟩

/-- Detection depends on a rule set only by what it judges for each kind. -/
theorem detect_congr {others : RuleSet}
    (hholds : ∀ kind x y, others.holds kind x y = rules.holds kind x y)
    (requirements : List Requirement) :
    others.detect requirements = rules.detect requirements := by
  have hsymmetric : others.scanSymmetric = rules.scanSymmetric := by
    funext x y scan kind
    rw [scanSymmetric, scanSymmetric, hholds]
  have hdirectional : others.scanDirectional = rules.scanDirectional := by
    funext x y scan kind
    simp only [scanDirectional, hholds]
  have hedges : others.scanEdges = rules.scanEdges := by
    funext kind x y graph
    simp only [scanEdges, hholds]
  have hpair : others.scanPair = rules.scanPair := by
    funext scan pair
    simp only [scanPair, hsymmetric, hdirectional, hedges]
  rw [detect, detect, RuleSet.scan, RuleSet.scan, hpair]

end RuleSet

end ReqConflict
