import Mathlib.Data.Fin.Basic
import Mathlib.Logic.Equiv.Basic
import ReqConflict.Proofs.BuiltinRules.Judgement
import ReqConflict.Proofs.Detection.Findings
import ReqConflict.Proofs.Interlock.Completeness

/-!
# The order of requirements

A scan judges some kinds only on a pair in its order, and walks through its
graphs in the order of nodes and successors.  Neither matters if these kinds
are symmetric, as they are by the built-in rules: which pairs are recorded
depends on the pairs alone, the graphs are the same up to the names of their
nodes, and the cycles that are found always cover all nodes that lie on one.
-/

namespace ReqConflict

namespace InterlockGraph

variable {graph other : InterlockGraph} {f : Nat → Nat} {nodes : List Nat} {node : Nat}

theorem IsCycle.map (hf : Function.Injective f)
    (hedge : ∀ i j, graph.Edge i j → other.Edge (f i) (f j)) (hcycle : graph.IsCycle nodes) :
    other.IsCycle (nodes.map f) where
  distinct := hcycle.distinct.map hf
  steps := by
    rw [List.isChain_map]
    exact hcycle.steps.imp fun i j => hedge i j
  closes := by
    obtain ⟨first, last, hfirst, hlast, hclose⟩ := hcycle.closes
    refine ⟨f first, f last, ?_, ?_, hedge last first hclose⟩
    · rw [List.head?_map, hfirst, Option.map_some]
    · rw [List.getLast?_map, hlast, Option.map_some]

/-- The node of a reported cycle is reported under its new name as well. -/
theorem exists_mem_cycles_map (hgraph : graph.WellFormed) (hother : other.WellFormed)
    (hf : Function.Injective f) (hedge : ∀ i j, graph.Edge i j → other.Edge (f i) (f j))
    (hnode : ∃ cycle ∈ graph.cycles, node ∈ cycle) : ∃ cycle ∈ other.cycles, f node ∈ cycle := by
  obtain ⟨cycle, hcycle, hnode⟩ := hnode
  obtain ⟨hlength, loop, hloop, _, hlists⟩ := exists_of_mem_cycles hgraph hcycle
  apply (hloop.map hf hedge).exists_cycle_through hother
  · rw [List.length_map]
    exact Nat.le_trans hlength hlists.length_le
  · exact List.mem_map_of_mem ((hlists.2 node).mp hnode)

end InterlockGraph

/-- The requirements in another order, which has at each position the one that
a permutation says. -/
def arrange (requirements : List Requirement) (σ : Equiv.Perm (Fin requirements.length)) :
    List Requirement :=
  List.ofFn fun i => requirements[σ i]

/-- What a permutation of the first positions does to all of them. -/
def origin {n : Nat} (σ : Equiv.Perm (Fin n)) : Equiv.Perm Nat :=
  σ.extendDomain Fin.equivSubtype

theorem origin_val {n : Nat} (σ : Equiv.Perm (Fin n)) (i : Fin n) : origin σ i = σ i :=
  σ.extendDomain_apply_image Fin.equivSubtype i

theorem origin_of_le {n i : Nat} (σ : Equiv.Perm (Fin n)) (hi : n ≤ i) : origin σ i = i :=
  σ.extendDomain_apply_not_subtype Fin.equivSubtype (Nat.not_lt.mpr hi)

theorem getElem?_arrange (requirements : List Requirement)
    (σ : Equiv.Perm (Fin requirements.length)) (i : Nat) :
    (arrange requirements σ)[i]? = requirements[origin σ i]? := by
  by_cases hi : i < requirements.length
  · have hval : origin σ i = σ ⟨i, hi⟩ := origin_val σ ⟨i, hi⟩
    rw [hval, arrange, List.getElem?_ofFn, dif_pos hi]
    simp
  · have hval : origin σ i = i := origin_of_le σ (Nat.not_lt.mp hi)
    rw [hval, arrange, List.getElem?_ofFn, dif_neg hi, List.getElem?_eq_none (Nat.not_lt.mp hi)]

variable {requirements : List Requirement} {σ : Equiv.Perm (Fin requirements.length)} {i j : Nat}

theorem areSiblings_arrange_iff :
    AreSiblings (arrange requirements σ) i j ↔
      AreSiblings requirements (origin σ i) (origin σ j) := by
  unfold AreSiblings
  rw [getElem?_arrange, getElem?_arrange]

theorem RuleSet.confirmsAt_arrange_iff {rules : RuleSet} {kind : ConflictKind} :
    rules.ConfirmsAt (arrange requirements σ) kind i j ↔
      rules.ConfirmsAt requirements kind (origin σ i) (origin σ j) := by
  unfold ConfirmsAt
  rw [getElem?_arrange, getElem?_arrange]
  rfl

/-- A record of a scan is of this kind and between these two positions. -/
def Scan.Records (scan : Scan) (kind : ConflictKind) (i j : Nat) : Prop :=
  ∃ record ∈ scan.conflicts, record.kind = kind ∧ record.members.Perm [i, j]

theorem Scan.records_comm {scan : Scan} {kind : ConflictKind} :
    scan.Records kind i j ↔ scan.Records kind j i := by
  have hswap : ∀ members : List Nat, members.Perm [i, j] ↔ members.Perm [j, i] := by
    intro members
    constructor
    · intro hperm
      exact hperm.trans (.swap j i [])
    · intro hperm
      exact hperm.trans (.swap i j [])
  simp only [Records, hswap]

namespace RuleSet

variable {rules : RuleSet} {scan other : Scan} {kind : ConflictKind}

/-- The order of two requirements does not matter to the kinds that are judged
only once. -/
def IsSymmetric (rules : RuleSet) : Prop :=
  ∀ kind ∈ ConflictKind.symmetric, ∀ x y, rules.confirms kind x y = rules.confirms kind y x

theorem exists_mem_records_iff (hrules : rules.IsSymmetric) {x y : Placed} :
    (∃ record ∈ Scan.records rules.confirms (x, y), record.kind = kind) ↔
      kind ∉ ConflictKind.interlock ∧
        (rules.confirms kind x y = true ∨ rules.confirms kind y x = true) := by
  rw [ConflictKind.not_mem_interlock_iff]
  constructor
  · rintro ⟨record, hrecord, rfl⟩
    rcases Scan.mem_records_iff.mp hrecord with
      ⟨hkind, hforth, _⟩ | ⟨hkind, ⟨hforth, _⟩ | ⟨_, hback, _⟩⟩
    · exact ⟨Or.inl hkind, Or.inl hforth⟩
    · exact ⟨Or.inr hkind, Or.inl hforth⟩
    · exact ⟨Or.inr hkind, Or.inr hback⟩
  · rintro ⟨hkind, hconfirms⟩
    suffices hrecord : ∃ members, ⟨kind, members⟩ ∈ Scan.records rules.confirms (x, y) by
      obtain ⟨members, hmem⟩ := hrecord
      exact ⟨⟨kind, members⟩, hmem, rfl⟩
    simp only [Scan.mem_records_iff]
    rcases hkind with hkind | hkind
    · have hforth : rules.confirms kind x y = true := by
        rcases hconfirms with hforth | hback
        · exact hforth
        · rw [hrules kind hkind x y, hback]
      exact ⟨_, Or.inl ⟨hkind, hforth, rfl⟩⟩
    · cases hforth : rules.confirms kind x y with
      | true => exact ⟨_, Or.inr ⟨hkind, Or.inl ⟨rfl, rfl⟩⟩⟩
      | false =>
          have hback : rules.confirms kind y x = true := by simpa [hforth] using hconfirms
          exact ⟨_, Or.inr ⟨hkind, Or.inr ⟨rfl, hback, rfl⟩⟩⟩

theorem records_iff_of_lt (hrules : rules.IsSymmetric)
    (hscan : rules.scan requirements = .ok scan) (hlt : i < j) :
    scan.Records kind i j ↔
      kind ∉ ConflictKind.interlock ∧ ¬AreSiblings requirements i j ∧
        (rules.ConfirmsAt requirements kind i j ∨ rules.ConfirmsAt requirements kind j i) := by
  unfold Scan.Records
  rw [conflicts_scan hscan]
  constructor
  · rintro ⟨record, hrecord, hkind, hmembers⟩
    obtain ⟨⟨x, y⟩, hpair, hrecord⟩ := List.mem_flatMap.mp hrecord
    obtain ⟨hx, hy, hascending, _⟩ := Scan.mem_pairs_zipIdx_iff.mp hpair
    have hperm : [i, j].Perm [x.2, y.2] :=
      hmembers.symm.trans (Scan.perm_of_mem_records hrecord)
    obtain ⟨rfl, rfl⟩ := Scan.eq_of_perm_pair hlt hascending hperm
    obtain ⟨hdirect, hconfirms⟩ := (exists_mem_records_iff hrules).mp ⟨record, hrecord, hkind⟩
    refine ⟨hdirect, not_areSiblings_of_mem_pairs hpair, ?_⟩
    rcases hconfirms with hforth | hback
    · exact Or.inl ⟨x.1, y.1, hx, hy, hforth⟩
    · exact Or.inr ⟨y.1, x.1, hy, hx, hback⟩
  · rintro ⟨hkind, hsiblings, hconfirms⟩
    obtain ⟨first, second, hi, hj, hconfirms⟩ : ∃ first second,
        requirements[i]? = some first ∧ requirements[j]? = some second ∧
          (rules.confirms kind (first, i) (second, j) = true ∨
            rules.confirms kind (second, j) (first, i) = true) := by
      rcases hconfirms with ⟨first, second, hi, hj, hforth⟩ | ⟨second, first, hj, hi, hback⟩
      · exact ⟨first, second, hi, hj, Or.inl hforth⟩
      · exact ⟨first, second, hi, hj, Or.inr hback⟩
    have hpair := mem_pairs_of_lt hi hj hlt hsiblings
    obtain ⟨record, hrecord, hsame⟩ := (exists_mem_records_iff hrules).mpr ⟨hkind, hconfirms⟩
    have hmem := List.mem_flatMap.mpr ⟨_, hpair, hrecord⟩
    exact ⟨record, hmem, hsame, Scan.perm_of_mem_records hrecord⟩

theorem records_iff (hrules : rules.IsSymmetric) (hscan : rules.scan requirements = .ok scan) :
    scan.Records kind i j ↔
      kind ∉ ConflictKind.interlock ∧ i ≠ j ∧ ¬AreSiblings requirements i j ∧
        (rules.ConfirmsAt requirements kind i j ∨ rules.ConfirmsAt requirements kind j i) := by
  rcases Nat.lt_trichotomy i j with hlt | rfl | hlt
  · have hne : i ≠ j := Nat.ne_of_lt hlt
    simp [records_iff_of_lt hrules hscan hlt, hne]
  · have hnone : ¬scan.Records kind i i := by
      rintro ⟨record, hrecord, _, hmembers⟩
      obtain ⟨a, b, hne, _, heq⟩ := exists_of_mem_conflicts hscan hrecord
      rw [heq] at hmembers
      have ha : a ∈ [i, i] := hmembers.subset List.mem_cons_self
      have hb : b ∈ [i, i] := hmembers.subset (by simp)
      simp only [List.mem_cons, List.not_mem_nil, or_false, or_self] at ha hb
      exact hne (ha.trans hb.symm)
    simp [hnone]
  · have hne : i ≠ j := Nat.ne_of_gt hlt
    have hsiblings : AreSiblings requirements j i ↔ AreSiblings requirements i j :=
      ⟨AreSiblings.symm, AreSiblings.symm⟩
    rw [Scan.records_comm, records_iff_of_lt hrules hscan hlt, hsiblings, or_comm]
    simp [hne]

variable (hscan : rules.scan requirements = .ok scan)
  (hother : rules.scan (arrange requirements σ) = .ok other)

include hscan hother

theorem records_arrange_iff (hrules : rules.IsSymmetric) :
    other.Records kind i j ↔ scan.Records kind (origin σ i) (origin σ j) := by
  rw [records_iff hrules hother, records_iff hrules hscan, areSiblings_arrange_iff,
    confirmsAt_arrange_iff, confirmsAt_arrange_iff, (origin σ).injective.ne_iff]

theorem edge_arrange_iff (hkind : kind ∈ ConflictKind.interlock) :
    (other.graph kind).Edge i j ↔ (scan.graph kind).Edge (origin σ i) (origin σ j) := by
  rw [edge_graph_iff hother hkind, edge_graph_iff hscan hkind, areSiblings_arrange_iff,
    confirmsAt_arrange_iff, (origin σ).injective.ne_iff]

theorem exists_mem_cycles_arrange_iff (hkind : kind ∈ ConflictKind.interlock) :
    (∃ cycle ∈ (other.graph kind).cycles, i ∈ cycle) ↔
      ∃ cycle ∈ (scan.graph kind).cycles, origin σ i ∈ cycle := by
  have hgraph := wellFormed_graph hscan hkind
  have harranged := wellFormed_graph hother hkind
  constructor
  · apply InterlockGraph.exists_mem_cycles_map harranged hgraph (origin σ).injective
    exact fun a b hedge => (edge_arrange_iff hscan hother hkind).mp hedge
  -- the way back is by the inverse permutation
  · intro hnode
    have hback : ∃ cycle ∈ (other.graph kind).cycles, (origin σ).symm (origin σ i) ∈ cycle := by
      apply InterlockGraph.exists_mem_cycles_map hgraph harranged (origin σ).symm.injective _ hnode
      intro a b hedge
      apply (edge_arrange_iff hscan hother hkind).mpr
      simpa using hedge
    simpa using hback

end RuleSet

/-! ## The built-in rules -/

namespace BuiltinRules

theorem holds_eq_ok (kind : ConflictKind) (x y : Placed) :
    ruleSet.holds kind x y = .ok (decide (kind.Holds x.1 y.1)) :=
  (decides_judge kind x.1 y.1).eq_ok

theorem isSymmetric_ruleSet : ruleSet.IsSymmetric := by
  intro kind hkind x y
  rw [RuleSet.confirms_of_holds (holds_eq_ok kind x y),
    RuleSet.confirms_of_holds (holds_eq_ok kind y x)]
  exact decide_eq_decide.mpr (ConflictKind.holds_comm hkind x.1 y.1)

theorem exists_scan (requirements : List Requirement) :
    ∃ scan, ruleSet.scan requirements = .ok scan := by
  cases hscan : ruleSet.scan requirements with
  | ok scan => exact ⟨scan, rfl⟩
  | error error =>
      obtain ⟨pair, _, kind, hfails⟩ := RuleSet.exists_fails_of_scan hscan
      rw [holds_eq_ok, holds_eq_ok] at hfails
      rcases hfails with hfails | hfails <;> cases hfails

/-- With the built-in rules the order of the requirements does not matter.
Detection succeeds in either order.  It records the same pairs for the same
kinds, each at most once, draws the same graphs, and names the same
requirements in cycles, up to their positions. -/
theorem detect_arrange :
    ∃ rules, compiled RulesDocument.builtinText = .ok rules ∧
      ∀ (requirements : List Requirement) (σ : Equiv.Perm (Fin requirements.length)),
        ∃ scan other,
          rules.scan requirements = .ok scan ∧
          rules.scan (arrange requirements σ) = .ok other ∧
          rules.detect requirements = .ok scan.finish ∧
          rules.detect (arrange requirements σ) = .ok other.finish ∧
          (∀ found ∈ [scan, other],
            (∀ record ∈ found.conflicts, ∃ i j, i ≠ j ∧ record.members = [i, j]) ∧
            found.conflicts.Pairwise fun r s =>
              ¬(r.kind = s.kind ∧ r.members.Perm s.members)) ∧
          (∀ kind i j,
            other.Records kind i j ↔ scan.Records kind (origin σ i) (origin σ j)) ∧
          (∀ i j, other.operationEvent.hasEdge i j =
            scan.operationEvent.hasEdge (origin σ i) (origin σ j)) ∧
          (∀ i j, other.inputOutput.hasEdge i j =
            scan.inputOutput.hasEdge (origin σ i) (origin σ j)) ∧
          ∀ kind ∈ ConflictKind.interlock, ∀ i,
            (∃ record ∈ other.finish, record.kind = kind ∧ i ∈ record.members) ↔
              ∃ record ∈ scan.finish, record.kind = kind ∧ origin σ i ∈ record.members := by
  refine ⟨ruleSet, compiled_builtinText, ?_⟩
  intro requirements σ
  obtain ⟨scan, hscan⟩ := exists_scan requirements
  obtain ⟨other, hother⟩ := exists_scan (arrange requirements σ)
  have hoperationEvent : ConflictKind.operationEventInterlock ∈ ConflictKind.interlock := by decide
  have hinputOutput : ConflictKind.inputOutputInterlock ∈ ConflictKind.interlock := by decide
  refine ⟨scan, other, hscan, hother, ?_, ?_, ?_, ?_, ?_, ?_, ?_⟩
  · rw [RuleSet.detect, hscan]
    rfl
  · rw [RuleSet.detect, hother]
    rfl
  · exact List.forall_mem_cons.mpr ⟨RuleSet.distinct_pairs hscan,
      List.forall_mem_singleton.mpr (RuleSet.distinct_pairs hother)⟩
  · exact fun kind i j => RuleSet.records_arrange_iff hscan hother isSymmetric_ruleSet
  · intro i j
    rw [Bool.eq_iff_iff, InterlockGraph.hasEdge_iff, InterlockGraph.hasEdge_iff]
    exact RuleSet.edge_arrange_iff hscan hother hoperationEvent
  · intro i j
    rw [Bool.eq_iff_iff, InterlockGraph.hasEdge_iff, InterlockGraph.hasEdge_iff]
    exact RuleSet.edge_arrange_iff hscan hother hinputOutput
  · intro kind hkind i
    rw [RuleSet.named_iff hother hkind, RuleSet.named_iff hscan hkind]
    exact RuleSet.exists_mem_cycles_arrange_iff hscan hother hkind

end BuiltinRules

end ReqConflict
