import ReqConflict.Proofs.Detection.Scan
import ReqConflict.Proofs.Interlock.Walk

/-!
# Findings by position

What a scan that succeeds has found, for two positions: the records of direct
conflicts between them, and the edges between them in the two graphs.  Either
takes two different positions that hold no siblings.
-/

namespace ReqConflict

/-- Two positions hold requirements that were split from one sentence. -/
def AreSiblings (requirements : List Requirement) (i j : Nat) : Prop :=
  ∃ x y, requirements[i]? = some x ∧ requirements[j]? = some y ∧ x.isSibling y = true

/-- The rule of a kind is judged to hold for the requirements at two positions. -/
def RuleSet.ConfirmsAt (rules : RuleSet) (requirements : List Requirement) (kind : ConflictKind)
    (i j : Nat) : Prop :=
  ∃ x y, requirements[i]? = some x ∧ requirements[j]? = some y ∧
    rules.confirms kind (x, i) (y, j) = true

theorem ConflictKind.not_mem_interlock_iff {kind : ConflictKind} :
    kind ∉ interlock ↔ kind ∈ symmetric ∨ kind ∈ directional := by
  cases kind <;> decide

/-- The place of a kind in the order in which kinds are judged. -/
def ConflictKind.index (kind : ConflictKind) : Nat :=
  every.idxOf kind

theorem AreSiblings.symm {requirements : List Requirement} {i j : Nat}
    (hsiblings : AreSiblings requirements i j) : AreSiblings requirements j i := by
  obtain ⟨x, y, hx, hy, hsibling⟩ := hsiblings
  exact ⟨y, x, hy, hx, Requirement.isSibling_comm x y ▸ hsibling⟩

/-- Records come by the lower of their positions, then by the higher one, then
by kind. -/
def Conflict.Precedes (record other : Conflict Nat) : Prop :=
  ∃ i j k l, i < j ∧ k < l ∧ record.members.Perm [i, j] ∧ other.members.Perm [k, l] ∧
    (i < k ∨ i = k ∧ (j < l ∨ j = l ∧ record.kind.index < other.kind.index))

/-- Two positions in ascending order are determined by what they are together. -/
theorem Scan.eq_of_perm_pair {i j k l : Nat} (hij : i < j) (hkl : k < l)
    (hperm : [i, j].Perm [k, l]) : i = k ∧ j = l := by
  have hi : i ∈ [k, l] := hperm.subset List.mem_cons_self
  have hj : j ∈ [k, l] := hperm.subset (by simp)
  simp only [List.mem_cons, List.not_mem_nil, or_false] at hi hj
  omega

theorem Conflict.Precedes.not_same {record other : Conflict Nat} (hlt : record.Precedes other) :
    ¬(record.kind = other.kind ∧ record.members.Perm other.members) := by
  rintro ⟨hkind, hsame⟩
  obtain ⟨i, j, k, l, hij, hkl, hrecord, hother, hlt⟩ := hlt
  have heq := Scan.eq_of_perm_pair hij hkl (hrecord.symm.trans (hsame.trans hother))
  rw [hkind] at hlt
  omega

namespace Scan

/-- The graph of a kind of interlock. -/
def graph (scan : Scan) : ConflictKind → InterlockGraph
  | .operationEventInterlock => scan.operationEvent
  | _ => scan.inputOutput

theorem mem_finish_iff {scan : Scan} {record : Conflict Nat} :
    record ∈ scan.finish ↔ record ∈ scan.conflicts ∨
      record.kind ∈ ConflictKind.interlock ∧
        record.members ∈ (scan.graph record.kind).cycles := by
  obtain ⟨kind, members⟩ := record
  cases kind <;> simp [finish, graph, ConflictKind.interlock]

variable {confirms : ConflictKind → Placed → Placed → Bool} {pairs : List (Placed × Placed)}
  {pair : Placed × Placed} {record : Conflict Nat} {x y : Placed} {i j : Nat}

theorem symmetricRecord_eq_some_iff {kind : ConflictKind} :
    symmetricRecord confirms x y kind = some record ↔
      record.kind = kind ∧ confirms kind x y = true ∧ record.members = [x.2, y.2] := by
  obtain ⟨found, members⟩ := record
  rw [symmetricRecord, Option.ite_none_right_eq_some, Option.some.injEq, Conflict.mk.injEq]
  constructor
  · rintro ⟨hforth, rfl, rfl⟩
    exact ⟨rfl, hforth, rfl⟩
  · rintro ⟨rfl, hforth, rfl⟩
    exact ⟨hforth, rfl, rfl⟩

theorem directionalRecord_eq_some_iff {kind : ConflictKind} :
    directionalRecord confirms x y kind = some record ↔
      record.kind = kind ∧ (confirms kind x y = true ∧ record.members = [x.2, y.2] ∨
        confirms kind x y = false ∧ confirms kind y x = true ∧ record.members = [y.2, x.2]) := by
  obtain ⟨found, members⟩ := record
  rw [directionalRecord]
  cases hforth : confirms kind x y with
  | true =>
      constructor
      · rintro ⟨⟩
        exact ⟨rfl, Or.inl ⟨rfl, rfl⟩⟩
      · rintro ⟨rfl, ⟨_, rfl⟩ | ⟨⟨⟩, _⟩⟩
        rfl
  | false =>
      cases hback : confirms kind y x with
      | true =>
          constructor
          · rintro ⟨⟩
            exact ⟨rfl, Or.inr ⟨rfl, rfl, rfl⟩⟩
          · rintro ⟨rfl, ⟨⟨⟩, _⟩ | ⟨_, _, rfl⟩⟩
            rfl
      | false =>
          constructor
          · rintro ⟨⟩
          · rintro ⟨_, ⟨⟨⟩, _⟩ | ⟨_, ⟨⟩, _⟩⟩

theorem mem_records_iff {kind : ConflictKind} {members : List Nat} :
    ⟨kind, members⟩ ∈ records confirms (x, y) ↔
      kind ∈ ConflictKind.symmetric ∧ confirms kind x y = true ∧ members = [x.2, y.2] ∨
        kind ∈ ConflictKind.directional ∧
          (confirms kind x y = true ∧ members = [x.2, y.2] ∨
            confirms kind x y = false ∧ confirms kind y x = true ∧ members = [y.2, x.2]) := by
  simp only [records, List.mem_append, List.mem_filterMap, symmetricRecord_eq_some_iff,
    directionalRecord_eq_some_iff]
  constructor
  · rintro (⟨_, hkind, rfl, hrecord⟩ | ⟨_, hkind, rfl, hrecord⟩)
    · exact Or.inl ⟨hkind, hrecord⟩
    · exact Or.inr ⟨hkind, hrecord⟩
  · rintro (⟨hkind, hrecord⟩ | ⟨hkind, hrecord⟩)
    · exact Or.inl ⟨kind, hkind, rfl, hrecord⟩
    · exact Or.inr ⟨kind, hkind, rfl, hrecord⟩

theorem perm_of_mem_records (hrecord : record ∈ records confirms (x, y)) :
    record.members.Perm [x.2, y.2] := by
  rcases mem_records_iff.mp hrecord with ⟨_, _, hmembers⟩ | ⟨_, ⟨_, hmembers⟩ | ⟨_, _, hmembers⟩⟩
  · rw [hmembers]
  · rw [hmembers]
  · rw [hmembers]
    exact List.Perm.swap _ _ _

theorem pairwise_index_lt {record : ConflictKind → Option (Conflict Nat)}
    {kinds : List ConflictKind} (hkinds : kinds.Pairwise fun kind other => kind.index < other.index)
    (hrecord : ∀ kind found, record kind = some found → found.kind = kind) :
    (kinds.filterMap record).Pairwise fun r s => r.kind.index < s.kind.index := by
  refine List.pairwise_filterMap.mpr (hkinds.imp ?_)
  intro kind other hlt r hr s hs
  rw [hrecord kind r hr, hrecord other s hs]
  exact hlt

/-- The records of a pair come in the order of their kinds. -/
theorem pairwise_records (pair : Placed × Placed) :
    (records confirms pair).Pairwise fun r s => r.kind.index < s.kind.index := by
  have hsymmetric : ∀ kind r, symmetricRecord confirms pair.1 pair.2 kind = some r →
      r.kind = kind := by
    intro kind r hr
    exact (symmetricRecord_eq_some_iff.mp hr).1
  have hdirectional : ∀ kind r, directionalRecord confirms pair.1 pair.2 kind = some r →
      r.kind = kind := by
    intro kind r hr
    exact (directionalRecord_eq_some_iff.mp hr).1
  have hsides : ∀ kind ∈ ConflictKind.symmetric, ∀ other ∈ ConflictKind.directional,
      kind.index < other.index := by decide
  refine List.pairwise_append.mpr ⟨?_, ?_, ?_⟩
  · exact pairwise_index_lt (by decide) hsymmetric
  · exact pairwise_index_lt (by decide) hdirectional
  · intro r hr s hs
    obtain ⟨kind, hkind, hr⟩ := List.mem_filterMap.mp hr
    obtain ⟨other, hother, hs⟩ := List.mem_filterMap.mp hs
    rw [hsymmetric kind r hr, hdirectional other s hs]
    exact hsides kind hkind other hother

theorem pairwise_flatMap_records
    (hpairs : pairs.Pairwise fun p q => p.1.2 < q.1.2 ∨ p.1.2 = q.1.2 ∧ p.2.2 < q.2.2)
    (hascending : ∀ pair ∈ pairs, pair.1.2 < pair.2.2) :
    (pairs.flatMap (records confirms)).Pairwise Conflict.Precedes := by
  refine List.pairwise_flatMap.mpr ⟨?_, ?_⟩
  · intro pair hpair
    have hlt := hascending pair hpair
    refine (pairwise_records pair).imp_of_mem ?_
    intro r s hr hs hkind
    refine ⟨_, _, _, _, hlt, hlt, perm_of_mem_records hr, perm_of_mem_records hs, ?_⟩
    right
    exact ⟨rfl, Or.inr ⟨rfl, hkind⟩⟩
  · refine hpairs.imp_of_mem ?_
    intro p q hp hq hbefore r hr s hs
    refine ⟨_, _, _, _, hascending p hp, hascending q hq, perm_of_mem_records hr,
      perm_of_mem_records hs, ?_⟩
    apply hbefore.imp_right
    rintro ⟨hsame, hlt⟩
    exact ⟨hsame, Or.inl hlt⟩

theorem mem_edges_iff {kind : ConflictKind} :
    (i, j) ∈ edges confirms kind (x, y) ↔
      confirms kind x y = true ∧ i = x.2 ∧ j = y.2 ∨
        confirms kind y x = true ∧ i = y.2 ∧ j = x.2 := by
  cases hforth : confirms kind x y <;> cases hback : confirms kind y x <;>
    simp [edges, hforth, hback]

end Scan

/-! ## Records and edges of a scan -/

namespace RuleSet

variable {rules : RuleSet} {requirements : List Requirement} {scan : Scan}
  {kind : ConflictKind} {record : Conflict Nat} {x y : Placed} {i j : Nat}

theorem not_areSiblings_of_mem_pairs (hpair : (x, y) ∈ Scan.pairs requirements.zipIdx) :
    ¬AreSiblings requirements x.2 y.2 := by
  obtain ⟨hx, hy, _, hsibling⟩ := Scan.mem_pairs_zipIdx_iff.mp hpair
  rintro ⟨x', y', hx', hy', hsibling'⟩
  rw [hx] at hx'
  rw [hy] at hy'
  cases hx'
  cases hy'
  rw [hsibling] at hsibling'
  cases hsibling'

theorem mem_pairs_of_lt {first second : Requirement} (hi : requirements[i]? = some first)
    (hj : requirements[j]? = some second) (hlt : i < j)
    (hsiblings : ¬AreSiblings requirements i j) :
    ((first, i), (second, j)) ∈ Scan.pairs requirements.zipIdx := by
  have hnot : ¬first.isSibling second = true := by
    intro hsibling
    exact hsiblings ⟨first, second, hi, hj, hsibling⟩
  exact Scan.mem_pairs_zipIdx_iff.mpr ⟨hi, hj, hlt, eq_false_of_ne_true hnot⟩

theorem conflicts_scan (hscan : rules.scan requirements = .ok scan) :
    scan.conflicts =
      (Scan.pairs requirements.zipIdx).flatMap (Scan.records rules.confirms) := by
  rw [eq_of_scan hscan]
  rfl

theorem graph_scan (hscan : rules.scan requirements = .ok scan)
    (hkind : kind ∈ ConflictKind.interlock) :
    scan.graph kind =
      (InterlockGraph.edgeless requirements.length).addEdges
        ((Scan.pairs requirements.zipIdx).flatMap (Scan.edges rules.confirms kind)) := by
  rw [eq_of_scan hscan]
  simp only [ConflictKind.interlock, List.mem_cons, List.not_mem_nil, or_false] at hkind
  rcases hkind with rfl | rfl <;> rfl

theorem pairwise_precedes_conflicts (hscan : rules.scan requirements = .ok scan) :
    scan.conflicts.Pairwise Conflict.Precedes := by
  rw [conflicts_scan hscan]
  apply Scan.pairwise_flatMap_records (Scan.pairwise_pairs (Scan.pairwise_zipIdx requirements))
  intro pair hpair
  exact (Scan.mem_pairs_zipIdx_iff.mp hpair).2.2.1

/-- No kind is recorded twice for two positions, in whatever order. -/
theorem pairwise_conflicts (hscan : rules.scan requirements = .ok scan) :
    scan.conflicts.Pairwise fun r s => ¬(r.kind = s.kind ∧ r.members.Perm s.members) :=
  (pairwise_precedes_conflicts hscan).imp Conflict.Precedes.not_same

theorem exists_of_mem_conflicts (hscan : rules.scan requirements = .ok scan)
    (hrecord : record ∈ scan.conflicts) :
    ∃ i j, i ≠ j ∧ ¬AreSiblings requirements i j ∧ record.members = [i, j] := by
  rw [conflicts_scan hscan] at hrecord
  obtain ⟨⟨x, y⟩, hpair, hrecord⟩ := List.mem_flatMap.mp hrecord
  obtain ⟨_, _, hlt, _⟩ := Scan.mem_pairs_zipIdx_iff.mp hpair
  have hne : x.2 ≠ y.2 := Nat.ne_of_lt hlt
  have hsiblings := not_areSiblings_of_mem_pairs hpair
  rcases Scan.mem_records_iff.mp hrecord with
    ⟨_, _, hmembers⟩ | ⟨_, ⟨_, hmembers⟩ | ⟨_, _, hmembers⟩⟩
  · exact ⟨x.2, y.2, hne, hsiblings, hmembers⟩
  · exact ⟨x.2, y.2, hne, hsiblings, hmembers⟩
  · refine ⟨y.2, x.2, hne.symm, ?_, hmembers⟩
    intro hback
    exact hsiblings hback.symm

theorem distinct_pairs (hscan : rules.scan requirements = .ok scan) :
    (∀ record ∈ scan.conflicts, ∃ i j, i ≠ j ∧ record.members = [i, j]) ∧
      scan.conflicts.Pairwise fun r s => ¬(r.kind = s.kind ∧ r.members.Perm s.members) := by
  refine ⟨?_, pairwise_conflicts hscan⟩
  intro record hrecord
  obtain ⟨i, j, hne, _, hmembers⟩ := exists_of_mem_conflicts hscan hrecord
  exact ⟨i, j, hne, hmembers⟩

theorem kind_not_mem_interlock (hscan : rules.scan requirements = .ok scan)
    (hrecord : record ∈ scan.conflicts) : record.kind ∉ ConflictKind.interlock := by
  rw [conflicts_scan hscan] at hrecord
  obtain ⟨⟨x, y⟩, _, hrecord⟩ := List.mem_flatMap.mp hrecord
  rw [ConflictKind.not_mem_interlock_iff]
  exact (Scan.mem_records_iff.mp hrecord).imp And.left And.left

theorem nodeCount_graph (hscan : rules.scan requirements = .ok scan)
    (hkind : kind ∈ ConflictKind.interlock) :
    (scan.graph kind).nodeCount = requirements.length := by
  rw [graph_scan hscan hkind]
  simp

theorem source_lt : ∀ edge ∈ (Scan.pairs requirements.zipIdx).flatMap
    (Scan.edges rules.confirms kind), edge.1 < requirements.length := by
  rintro ⟨source, target⟩ hedge
  obtain ⟨⟨x, y⟩, hpair, hedge⟩ := List.mem_flatMap.mp hedge
  obtain ⟨hx, hy, _⟩ := Scan.mem_pairs_zipIdx_iff.mp hpair
  rcases Scan.mem_edges_iff.mp hedge with ⟨_, rfl, _⟩ | ⟨_, rfl, _⟩
  · exact (List.getElem?_eq_some_iff.mp hx).1
  · exact (List.getElem?_eq_some_iff.mp hy).1

/-- An edge leads from one position to another one if the rule of the graph
holds there, siblings left out. -/
theorem edge_graph_iff (hscan : rules.scan requirements = .ok scan)
    (hkind : kind ∈ ConflictKind.interlock) :
    (scan.graph kind).Edge i j ↔
      i ≠ j ∧ ¬AreSiblings requirements i j ∧ rules.ConfirmsAt requirements kind i j := by
  rw [graph_scan hscan hkind, InterlockGraph.edge_addEdges_iff (by simpa using source_lt)]
  constructor
  · rintro (hedge | hedge)
    · simp [InterlockGraph.Edge] at hedge
    · obtain ⟨⟨x, y⟩, hpair, hedge⟩ := List.mem_flatMap.mp hedge
      obtain ⟨hx, hy, hlt, _⟩ := Scan.mem_pairs_zipIdx_iff.mp hpair
      have hsiblings := not_areSiblings_of_mem_pairs hpair
      rcases Scan.mem_edges_iff.mp hedge with ⟨hforth, rfl, rfl⟩ | ⟨hback, rfl, rfl⟩
      · exact ⟨Nat.ne_of_lt hlt, hsiblings, x.1, y.1, hx, hy, hforth⟩
      · have hsiblings' : ¬AreSiblings requirements y.2 x.2 := by
          intro hsame
          exact hsiblings hsame.symm
        exact ⟨Nat.ne_of_gt hlt, hsiblings', y.1, x.1, hy, hx, hback⟩
  · rintro ⟨hne, hsiblings, first, second, hi, hj, hconfirms⟩
    right
    rcases Nat.lt_or_gt_of_ne hne with hlt | hlt
    · have hpair := mem_pairs_of_lt hi hj hlt hsiblings
      have hedge : (i, j) ∈ Scan.edges rules.confirms kind ((first, i), (second, j)) :=
        Scan.mem_edges_iff.mpr (Or.inl ⟨hconfirms, rfl, rfl⟩)
      exact List.mem_flatMap.mpr ⟨_, hpair, hedge⟩
    · have hsiblings' : ¬AreSiblings requirements j i := by
        intro hsame
        exact hsiblings hsame.symm
      have hpair := mem_pairs_of_lt hj hi hlt hsiblings'
      have hedge : (i, j) ∈ Scan.edges rules.confirms kind ((second, j), (first, i)) :=
        Scan.mem_edges_iff.mpr (Or.inr ⟨hconfirms, rfl, rfl⟩)
      exact List.mem_flatMap.mpr ⟨_, hpair, hedge⟩

theorem wellFormed_graph (hscan : rules.scan requirements = .ok scan)
    (hkind : kind ∈ ConflictKind.interlock) : (scan.graph kind).WellFormed := by
  intro source target hedge
  obtain ⟨_, _, _, _, _, htarget, _⟩ := (edge_graph_iff hscan hkind).mp hedge
  rw [nodeCount_graph hscan hkind]
  exact (List.getElem?_eq_some_iff.mp htarget).1

theorem named_iff (hscan : rules.scan requirements = .ok scan)
    (hkind : kind ∈ ConflictKind.interlock) :
    (∃ record ∈ scan.finish, record.kind = kind ∧ i ∈ record.members) ↔
      ∃ cycle ∈ (scan.graph kind).cycles, i ∈ cycle := by
  constructor
  · rintro ⟨record, hrecord, rfl, hi⟩
    rcases Scan.mem_finish_iff.mp hrecord with hrecord | ⟨_, hcycle⟩
    · exact absurd hkind (kind_not_mem_interlock hscan hrecord)
    · exact ⟨record.members, hcycle, hi⟩
  · rintro ⟨cycle, hcycle, hi⟩
    have hrecord : ⟨kind, cycle⟩ ∈ scan.finish := by
      rw [Scan.mem_finish_iff]
      exact Or.inr ⟨hkind, hcycle⟩
    exact ⟨⟨kind, cycle⟩, hrecord, rfl, hi⟩

end RuleSet

end ReqConflict
