import ReqConflict.Proofs.Detection.Siblings

/-!
# What a scan reports

A scan that succeeds reports what its rules say about the pairs that are no
siblings, no more and no less: every edge and every record is there for a rule
that holds, once, and records come in the order of the pairs.  The cycles of
the graphs are the only conflicts that detection adds.
-/

namespace ReqConflict

namespace InterlockGraph

variable {graph : InterlockGraph} {edges : List (Nat × Nat)} {i j : Nat}

theorem mem_edges_iff : (i, j) ∈ graph.edges ↔ graph.Edge i j := by
  simp only [InterlockGraph.edges, Edge, successors, List.mem_flatMap, List.mem_map, Prod.exists,
    List.mem_zipIdx_iff_getElem?, Prod.mk.injEq, List.getD_eq_getElem?_getD]
  constructor
  · rintro ⟨targets, source, htargets, target, htarget, rfl, rfl⟩
    simpa [htargets] using htarget
  · intro htarget
    cases htargets : graph.adjacency[i]? with
    | none => simp [htargets] at htarget
    | some targets => exact ⟨targets, i, htargets, j, by simpa [htargets] using htarget, rfl, rfl⟩

theorem nodup_edges (hsuccessors : ∀ node, (graph.successors node).Nodup) :
    graph.edges.Nodup := by
  refine List.nodup_flatMap.mpr ⟨?_, ?_⟩
  · rintro ⟨targets, source⟩ htargets
    have hsource := hsuccessors source
    rw [successors, List.getD_eq_getElem?_getD,
      List.mem_zipIdx_iff_getElem?.mp htargets] at hsource
    exact hsource.map fun _ _ heq => (Prod.mk.inj heq).2
  · have hsources : (graph.adjacency.zipIdx.map Prod.snd).Nodup := by
      rw [List.zipIdx_map_snd]
      exact List.nodup_range'
    refine (List.pairwise_map.mp hsources).imp ?_
    rintro ⟨targets, source⟩ ⟨others, other⟩ hne edge hedge hother
    obtain ⟨_, _, rfl⟩ := List.mem_map.mp hedge
    obtain ⟨_, _, heq⟩ := List.mem_map.mp hother
    exact hne (Prod.mk.inj heq).1.symm

theorem nodup_edges_addEdges {nodes : Nat} (hedges : ∀ edge ∈ edges, edge.1 < nodes)
    (hnodup : edges.Nodup) : ((edgeless nodes).addEdges edges).edges.Nodup := by
  apply nodup_edges
  intro node
  rw [successors_addEdges (by simpa using hedges), successors_edgeless, List.nil_append]
  refine (hnodup.filter _).map_on ?_
  -- targets are distinct because all these edges have the same source
  intro edge hedge other hother htarget
  have hsource : edge.1 = node := by simpa using (List.mem_filter.mp hedge).2
  have hsource' : other.1 = node := by simpa using (List.mem_filter.mp hother).2
  exact Prod.ext (hsource.trans hsource'.symm) htarget

end InterlockGraph

/-- The rule of a kind is judged to be true of the requirements at two
positions. -/
def RuleSet.TrueAt (rules : RuleSet) (requirements : List Requirement) (kind : ConflictKind)
    (i j : Nat) : Prop :=
  ∃ x y, requirements[i]? = some x ∧ requirements[j]? = some y ∧
    rules.judge kind.ruleName (.requirement x) (.requirement y) = .ok true

/-- The records of a kind for two positions, in the order found. -/
def Scan.between (scan : Scan) (kind : ConflictKind) (i j : Nat) : List (Conflict Nat) :=
  scan.conflicts.filter fun record =>
    record.kind = kind ∧ (record.members = [i, j] ∨ record.members = [j, i])

/-- A scan reports what the rules say about a list of requirements, no more and
no less. -/
structure Scan.IsExact (scan : Scan) (rules : RuleSet) (requirements : List Requirement) :
    Prop where
  edge : ∀ kind ∈ ConflictKind.interlock, ∀ i j,
    (i, j) ∈ (scan.graph kind).edges ↔
      i ≠ j ∧ ¬AreSiblings requirements i j ∧ rules.TrueAt requirements kind i j
  edgeOnce : ∀ kind ∈ ConflictKind.interlock, (scan.graph kind).edges.Nodup
  symmetric : ∀ kind ∈ ConflictKind.symmetric, ∀ i j, i < j → ¬AreSiblings requirements i j →
    (rules.TrueAt requirements kind i j → scan.between kind i j = [⟨kind, [i, j]⟩]) ∧
      (¬rules.TrueAt requirements kind i j → scan.between kind i j = [])
  directional : ∀ kind ∈ ConflictKind.directional, ∀ i j, i < j →
    ¬AreSiblings requirements i j →
      (rules.TrueAt requirements kind i j → scan.between kind i j = [⟨kind, [i, j]⟩]) ∧
        (¬rules.TrueAt requirements kind i j → rules.TrueAt requirements kind j i →
          scan.between kind i j = [⟨kind, [j, i]⟩]) ∧
        (¬rules.TrueAt requirements kind i j → ¬rules.TrueAt requirements kind j i →
          scan.between kind i j = [])
  siblings : ∀ kind i j, AreSiblings requirements i j → scan.between kind i j = []
  pairs : ∀ record ∈ scan.conflicts, record.kind ∉ ConflictKind.interlock ∧
    ∃ i j, i < j ∧ j < requirements.length ∧ (record.members = [i, j] ∨ record.members = [j, i])
  ordered : scan.conflicts.Pairwise Conflict.Precedes

/-- The cycles of a graph, each with at least two of the first positions. -/
structure InterlockGraph.CyclesWithin (graph : InterlockGraph) (count : Nat) : Prop where
  several : ∀ cycle ∈ graph.cycles, 2 ≤ cycle.length
  increasing : ∀ cycle ∈ graph.cycles, cycle.Pairwise (· < ·)
  bounded : ∀ cycle ∈ graph.cycles, ∀ i ∈ cycle, i < count

namespace RuleSet

variable {rules : RuleSet} {requirements : List Requirement} {scan : Scan}
  {kind : ConflictKind} {members : List Nat} {record : Conflict Nat} {i j : Nat}

theorem confirms_iff {x y : Placed} :
    rules.confirms kind x y = true ↔
      rules.judge kind.ruleName (.requirement x.1) (.requirement y.1) = .ok true := by
  unfold confirms holds
  cases rules.judge kind.ruleName (.requirement x.1) (.requirement y.1) <;> simp

theorem confirmsAt_iff : rules.ConfirmsAt requirements kind i j ↔
    rules.TrueAt requirements kind i j := by
  simp only [ConfirmsAt, TrueAt, confirms_iff]

/-- A record of a kind has to be made for two positions. -/
def Due (rules : RuleSet) (requirements : List Requirement) (kind : ConflictKind) (i j : Nat)
    (members : List Nat) : Prop :=
  ¬AreSiblings requirements i j ∧
    (kind ∈ ConflictKind.symmetric ∧ rules.TrueAt requirements kind i j ∧ members = [i, j] ∨
      kind ∈ ConflictKind.directional ∧
        (rules.TrueAt requirements kind i j ∧ members = [i, j] ∨
          ¬rules.TrueAt requirements kind i j ∧ rules.TrueAt requirements kind j i ∧
            members = [j, i]))

theorem Due.members_cases (hdue : rules.Due requirements kind i j members) :
    members = [i, j] ∨ members = [j, i] := by
  obtain ⟨_, ⟨_, _, hforth⟩ | ⟨_, ⟨_, hforth⟩ | ⟨_, _, hback⟩⟩⟩ := hdue
  · exact Or.inl hforth
  · exact Or.inl hforth
  · exact Or.inr hback

theorem Due.exists_requirements (hdue : rules.Due requirements kind i j members) :
    ∃ x y, requirements[i]? = some x ∧ requirements[j]? = some y := by
  have hor : rules.TrueAt requirements kind i j ∨ rules.TrueAt requirements kind j i := by
    obtain ⟨_, ⟨_, hforth, _⟩ | ⟨_, ⟨hforth, _⟩ | ⟨_, hback, _⟩⟩⟩ := hdue
    · exact Or.inl hforth
    · exact Or.inl hforth
    · exact Or.inr hback
  rcases hor with ⟨x, y, hx, hy, _⟩ | ⟨y, x, hy, hx, _⟩
  · exact ⟨x, y, hx, hy⟩
  · exact ⟨x, y, hx, hy⟩

theorem trueAt_iff {x y : Placed} (hx : requirements[x.2]? = some x.1)
    (hy : requirements[y.2]? = some y.1) :
    rules.TrueAt requirements kind x.2 y.2 ↔ rules.confirms kind x y = true := by
  rw [TrueAt, hx, hy, confirms_iff]
  constructor
  · rintro ⟨_, _, ⟨⟩, ⟨⟩, hjudge⟩
    exact hjudge
  · intro hjudge
    exact ⟨x.1, y.1, rfl, rfl, hjudge⟩

/-- The records of a pair are those that are due for its positions. -/
theorem due_iff_mem_records {x y : Placed} (hpair : (x, y) ∈ Scan.pairs requirements.zipIdx) :
    rules.Due requirements kind x.2 y.2 members ↔
      ⟨kind, members⟩ ∈ Scan.records rules.confirms (x, y) := by
  obtain ⟨hx, hy, _, _⟩ := Scan.mem_pairs_zipIdx_iff.mp hpair
  rw [Due, trueAt_iff hx hy, trueAt_iff hy hx, Scan.mem_records_iff, Bool.not_eq_true]
  exact and_iff_right (not_areSiblings_of_mem_pairs hpair)

theorem mem_conflicts_iff (hscan : rules.scan requirements = .ok scan) :
    ⟨kind, members⟩ ∈ scan.conflicts ↔
      ∃ i j, i < j ∧ rules.Due requirements kind i j members := by
  rw [conflicts_scan hscan, List.mem_flatMap]
  constructor
  · rintro ⟨⟨x, y⟩, hpair, hrecord⟩
    obtain ⟨_, _, hlt, _⟩ := Scan.mem_pairs_zipIdx_iff.mp hpair
    exact ⟨x.2, y.2, hlt, (due_iff_mem_records hpair).mpr hrecord⟩
  · rintro ⟨i, j, hlt, hdue⟩
    obtain ⟨x, y, hx, hy⟩ := hdue.exists_requirements
    have hpair := mem_pairs_of_lt hx hy hlt hdue.1
    exact ⟨((x, i), (y, j)), hpair, (due_iff_mem_records hpair).mp hdue⟩

/-! ## Records between two positions -/

theorem eq_of_members_cases {k l : Nat} (hij : i < j) (hkl : k < l)
    (hmembers : members = [i, j] ∨ members = [j, i])
    (hothers : members = [k, l] ∨ members = [l, k]) : i = k ∧ j = l := by
  rcases hmembers with rfl | rfl <;> simp at hothers <;> omega

theorem mem_between_iff (hscan : rules.scan requirements = .ok scan) (hlt : i < j) :
    record ∈ scan.between kind i j ↔
      record.kind = kind ∧ rules.Due requirements kind i j record.members := by
  obtain ⟨other, members⟩ := record
  simp only [Scan.between, List.mem_filter, mem_conflicts_iff hscan, decide_eq_true_eq]
  constructor
  · rintro ⟨⟨k, l, hkl, hdue⟩, rfl, hmembers⟩
    obtain ⟨rfl, rfl⟩ := eq_of_members_cases hlt hkl hmembers hdue.members_cases
    exact ⟨rfl, hdue⟩
  · rintro ⟨rfl, hdue⟩
    exact ⟨⟨i, j, hlt, hdue⟩, rfl, hdue.members_cases⟩

theorem between_eq_nil (hscan : rules.scan requirements = .ok scan) (hlt : i < j)
    (hnone : ∀ members, ¬rules.Due requirements kind i j members) :
    scan.between kind i j = [] := by
  refine List.eq_nil_iff_forall_not_mem.mpr ?_
  intro record hrecord
  exact hnone record.members ((mem_between_iff hscan hlt).mp hrecord).2

/-- No record is made twice, so that the only one due is all there is. -/
theorem between_eq_singleton (hscan : rules.scan requirements = .ok scan) (hlt : i < j)
    (hdue : ∀ other, rules.Due requirements kind i j other ↔ other = members) :
    scan.between kind i j = [⟨kind, members⟩] := by
  have hnodup : (scan.between kind i j).Nodup := by
    apply List.Nodup.filter
    apply (pairwise_conflicts hscan).imp
    rintro record _ hne rfl
    exact hne ⟨rfl, .refl _⟩
  have hmem : ∀ record, record ∈ scan.between kind i j ↔ record ∈ [⟨kind, members⟩] := by
    rintro ⟨other, others⟩
    rw [mem_between_iff hscan hlt, hdue, List.mem_singleton, Conflict.mk.injEq]
  have hperm : (scan.between kind i j).Perm [⟨kind, members⟩] :=
    (List.perm_ext_iff_of_nodup hnodup (List.nodup_singleton _)).mpr hmem
  exact List.perm_singleton.mp hperm

theorem between_of_areSiblings (hscan : rules.scan requirements = .ok scan)
    (hsiblings : AreSiblings requirements i j) : scan.between kind i j = [] := by
  refine List.eq_nil_iff_forall_not_mem.mpr ?_
  intro record hrecord
  obtain ⟨hrecord, hmatches⟩ := List.mem_filter.mp hrecord
  obtain ⟨k, l, _, hnot, hmembers⟩ := exists_of_mem_conflicts hscan hrecord
  obtain ⟨_, hsame⟩ := of_decide_eq_true hmatches
  rw [hmembers] at hsame
  rcases hsame with heq | heq
  · cases heq
    exact hnot hsiblings
  · cases heq
    exact hnot hsiblings.symm

theorem between_of_symmetric (hscan : rules.scan requirements = .ok scan) (hlt : i < j)
    (hkind : kind ∈ ConflictKind.symmetric) (hsiblings : ¬AreSiblings requirements i j) :
    (rules.TrueAt requirements kind i j → scan.between kind i j = [⟨kind, [i, j]⟩]) ∧
      (¬rules.TrueAt requirements kind i j → scan.between kind i j = []) := by
  have hother : kind ∉ ConflictKind.directional := by
    revert hkind
    cases kind <;> decide
  constructor
  · intro hforth
    apply between_eq_singleton hscan hlt
    simp [Due, hsiblings, hkind, hother, hforth]
  · intro hforth
    apply between_eq_nil hscan hlt
    simp [Due, hother, hforth]

theorem between_of_directional (hscan : rules.scan requirements = .ok scan) (hlt : i < j)
    (hkind : kind ∈ ConflictKind.directional) (hsiblings : ¬AreSiblings requirements i j) :
    (rules.TrueAt requirements kind i j → scan.between kind i j = [⟨kind, [i, j]⟩]) ∧
      (¬rules.TrueAt requirements kind i j → rules.TrueAt requirements kind j i →
        scan.between kind i j = [⟨kind, [j, i]⟩]) ∧
      (¬rules.TrueAt requirements kind i j → ¬rules.TrueAt requirements kind j i →
        scan.between kind i j = []) := by
  have hother : kind ∉ ConflictKind.symmetric := by
    revert hkind
    cases kind <;> decide
  refine ⟨?_, ?_, ?_⟩
  · intro hforth
    apply between_eq_singleton hscan hlt
    simp [Due, hsiblings, hkind, hother, hforth]
  · intro hforth hback
    apply between_eq_singleton hscan hlt
    simp [Due, hsiblings, hkind, hother, hforth, hback]
  · intro hforth hback
    apply between_eq_nil hscan hlt
    simp [Due, hother, hforth, hback]

theorem exists_pair_of_mem_conflicts (hscan : rules.scan requirements = .ok scan)
    (hrecord : record ∈ scan.conflicts) :
    ∃ i j, i < j ∧ j < requirements.length ∧
      (record.members = [i, j] ∨ record.members = [j, i]) := by
  obtain ⟨i, j, hlt, hdue⟩ := (mem_conflicts_iff hscan).mp hrecord
  obtain ⟨_, _, _, hj⟩ := hdue.exists_requirements
  exact ⟨i, j, hlt, (List.getElem?_eq_some_iff.mp hj).1, hdue.members_cases⟩

/-- A pair gives at most one edge in each direction, and two pairs have no edge
in common. -/
theorem nodup_flatMap_edges (confirms : ConflictKind → Placed → Placed → Bool)
    (requirements : List Requirement) (kind : ConflictKind) :
    ((Scan.pairs requirements.zipIdx).flatMap (Scan.edges confirms kind)).Nodup := by
  have hlt : ∀ pair ∈ Scan.pairs requirements.zipIdx, pair.1.2 < pair.2.2 := by
    intro pair hpair
    obtain ⟨_, _, hlt, _⟩ := Scan.mem_pairs_zipIdx_iff.mp hpair
    exact hlt
  have hends : ∀ {x y : Placed} {i j : Nat}, (i, j) ∈ Scan.edges confirms kind (x, y) →
      i = x.2 ∧ j = y.2 ∨ i = y.2 ∧ j = x.2 := by
    intro x y i j hedge
    rcases Scan.mem_edges_iff.mp hedge with ⟨_, hforth⟩ | ⟨_, hback⟩
    · exact Or.inl hforth
    · exact Or.inr hback
  refine List.nodup_flatMap.mpr ⟨?_, ?_⟩
  · rintro ⟨x, y⟩ hpair
    have hne : (x.2, y.2) ≠ (y.2, x.2) := by
      intro heq
      exact Nat.ne_of_lt (hlt _ hpair) (Prod.mk.inj heq).1
    unfold Scan.edges
    cases confirms kind x y <;> cases confirms kind y x <;> simp [hne]
  · refine (Scan.pairwise_pairs (Scan.pairwise_zipIdx requirements)).imp_of_mem ?_
    rintro ⟨x, y⟩ ⟨z, w⟩ hpair hother hbefore ⟨i, j⟩ hedge hedge'
    have hxy : x.2 < y.2 := hlt _ hpair
    have hzw : z.2 < w.2 := hlt _ hother
    have hhere := hends hedge
    have hthere := hends hedge'
    have hbefore : x.2 < z.2 ∨ x.2 = z.2 ∧ y.2 < w.2 := hbefore
    omega

theorem nodup_edges_graph (hscan : rules.scan requirements = .ok scan)
    (hkind : kind ∈ ConflictKind.interlock) : (scan.graph kind).edges.Nodup := by
  rw [graph_scan hscan hkind]
  exact InterlockGraph.nodup_edges_addEdges source_lt (nodup_flatMap_edges ..)

theorem cyclesWithin_graph (hscan : rules.scan requirements = .ok scan)
    (hkind : kind ∈ ConflictKind.interlock) :
    (scan.graph kind).CyclesWithin requirements.length := by
  have hgraph := wellFormed_graph hscan hkind
  constructor
  case several =>
    intro cycle hcycle
    obtain ⟨hlength, _⟩ := InterlockGraph.exists_of_mem_cycles hgraph hcycle
    exact hlength
  case increasing =>
    intro cycle hcycle
    obtain ⟨_, _, _, _, hlists⟩ := InterlockGraph.exists_of_mem_cycles hgraph hcycle
    exact hlists.1
  case bounded =>
    intro cycle hcycle i hi
    obtain ⟨_, loop, hloop, _, hlists⟩ := InterlockGraph.exists_of_mem_cycles hgraph hcycle
    rw [← nodeCount_graph hscan hkind]
    exact hloop.node_lt hgraph ((hlists.2 i).mp hi)

/-! ## The report -/

/-- A scan that succeeds reports the edges, the records and their order as the
rules have it, and detection adds the cycles of the two graphs to them. -/
theorem isExact_of_scan (hscan : rules.scan requirements = .ok scan) :
    scan.IsExact rules requirements ∧
      rules.detect requirements = .ok (scan.conflicts ++
        scan.operationEvent.cycles.map (Conflict.mk .operationEventInterlock) ++
        scan.inputOutput.cycles.map (Conflict.mk .inputOutputInterlock)) ∧
      scan.operationEvent.CyclesWithin requirements.length ∧
      scan.inputOutput.CyclesWithin requirements.length := by
  have hoperationEvent : ConflictKind.operationEventInterlock ∈ ConflictKind.interlock := by decide
  have hinputOutput : ConflictKind.inputOutputInterlock ∈ ConflictKind.interlock := by decide
  refine ⟨?_, ?_, cyclesWithin_graph hscan hoperationEvent, cyclesWithin_graph hscan hinputOutput⟩
  · exact {
      edge := fun kind hkind i j => by
        rw [InterlockGraph.mem_edges_iff, edge_graph_iff hscan hkind, confirmsAt_iff]
      edgeOnce := fun kind => nodup_edges_graph hscan
      symmetric := fun kind hkind i j hlt => between_of_symmetric hscan hlt hkind
      directional := fun kind hkind i j hlt => between_of_directional hscan hlt hkind
      siblings := fun kind i j => between_of_areSiblings hscan
      pairs := fun record hrecord =>
        ⟨kind_not_mem_interlock hscan hrecord, exists_pair_of_mem_conflicts hscan hrecord⟩
      ordered := pairwise_precedes_conflicts hscan }
  · rw [detect, hscan]
    rfl

/-- A power plant whose first requirement is repeated at the end, but not as
one of the siblings. -/
theorem isExact_of_scan_powerPlant :
    ∃ scan, BuiltinRules.ruleSet.scan (powerPlant ++ [turning 0 "heat" "water" "steam"]) =
        .ok scan ∧
      scan.between .operationInclusion 0 4 = [⟨.operationInclusion, [0, 4]⟩] ∧
      scan.between .operationInclusion 0 2 = [] ∧
      scan.inputOutput.edges = [(0, 1), (1, 2), (2, 3), (3, 0), (3, 4), (4, 1)] ∧
      scan.IsExact BuiltinRules.ruleSet (powerPlant ++ [turning 0 "heat" "water" "steam"]) := by
  have hscan : BuiltinRules.ruleSet.scan (powerPlant ++ [turning 0 "heat" "water" "steam"]) =
      .ok ⟨[⟨.operationInclusion, [0, 4]⟩], .edgeless 5, ⟨[[1], [2], [3], [0, 4], [1]]⟩⟩ :=
    toOption_eq_some_iff.mp (by decide +kernel)
  exact ⟨_, hscan, by decide, by decide, by decide, (isExact_of_scan hscan).1⟩

end RuleSet

end ReqConflict
