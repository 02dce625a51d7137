import ReqConflict.Proofs.BuiltinRules.RuleSet
import ReqConflict.Proofs.Detection.Findings
import ReqConflict.Proofs.Interlock.Completeness

/-!
# Siblings in one conflict

A scan leaves siblings out, so that no direct conflict is between siblings and
no edge leads from one to another.  A cycle of an interlock graph can still
pass through two of them, by way of requirements that are not their siblings,
and is then reported with both.  This takes at least four requirements: on a
shorter cycle any two are joined by an edge.

The last section has four requirements, two of them siblings, of which each
yields what the next one takes.
-/

namespace ReqConflict

/-- The other node is next to the first one, on one side or the other. -/
theorem InterlockGraph.IsCycle.edge_of_mem_tail {graph : InterlockGraph} {rest : List Nat}
    {i j : Nat} (hcycle : graph.IsCycle (i :: rest)) (hlength : rest.length < 3)
    (hj : j ∈ rest) : graph.Edge i j ∨ graph.Edge j i := by
  obtain ⟨_, hsteps, first, last, hfirst, hlast, hclose⟩ := hcycle
  cases hfirst
  match rest, hlength with
  | [], _ => cases hj
  | [b], _ =>
      rw [List.mem_singleton] at hj
      subst hj
      exact Or.inl (List.isChain_cons_cons.mp hsteps).1
  | [b, c], _ =>
      cases hlast
      rcases List.mem_cons.mp hj with rfl | hj
      · exact Or.inl (List.isChain_cons_cons.mp hsteps).1
      · exact Or.inr (List.mem_singleton.mp hj ▸ hclose)

theorem InterlockGraph.IsCycle.edge_of_length_lt {graph : InterlockGraph} {loop : List Nat}
    {i j : Nat} (hcycle : graph.IsCycle loop) (hlength : loop.length < 4) (hi : i ∈ loop)
    (hj : j ∈ loop) (hne : i ≠ j) : graph.Edge i j ∨ graph.Edge j i := by
  obtain ⟨before, after, rfl⟩ := List.append_of_mem hi
  have hrotated : graph.IsCycle (i :: (after ++ before)) := hcycle.rotate
  apply hrotated.edge_of_mem_tail
  · simp only [List.length_append, List.length_cons] at hlength ⊢
    omega
  · simp only [List.mem_append, List.mem_cons] at hj ⊢
    rcases hj with hj | rfl | hj
    · exact Or.inr hj
    · exact absurd rfl hne
    · exact Or.inl hj

namespace RuleSet

variable {rules : RuleSet} {requirements : List Requirement} {found : List (Conflict Nat)}
  {record : Conflict Nat} {scan : Scan} {kind : ConflictKind} {i j : Nat}

theorem exists_scan_of_detect (hdetect : rules.detect requirements = .ok found) :
    ∃ scan, rules.scan requirements = .ok scan ∧ found = scan.finish := by
  obtain ⟨scan, hscan, hfound⟩ := bind_eq_ok_iff.mp hdetect
  exact ⟨scan, hscan, (Except.ok.inj hfound).symm⟩

theorem not_areSiblings_of_mem_conflicts (hscan : rules.scan requirements = .ok scan)
    (hrecord : record ∈ scan.conflicts) (hi : i ∈ record.members) (hj : j ∈ record.members)
    (hne : i ≠ j) : ¬AreSiblings requirements i j := by
  obtain ⟨a, b, _, hsiblings, hmembers⟩ := exists_of_mem_conflicts hscan hrecord
  rw [hmembers] at hi hj
  simp only [List.mem_cons, List.not_mem_nil, or_false] at hi hj
  have hends : i = a ∧ j = b ∨ i = b ∧ j = a := by omega
  rcases hends with ⟨rfl, rfl⟩ | ⟨rfl, rfl⟩
  · exact hsiblings
  · intro hback
    exact hsiblings hback.symm

theorem not_areSiblings_of_edge (hscan : rules.scan requirements = .ok scan)
    (hkind : kind ∈ ConflictKind.interlock)
    (hedge : (scan.graph kind).Edge i j ∨ (scan.graph kind).Edge j i) :
    ¬AreSiblings requirements i j := by
  rcases hedge with hedge | hedge
  · obtain ⟨_, hnot, _⟩ := (edge_graph_iff hscan hkind).mp hedge
    exact hnot
  · obtain ⟨_, hnot, _⟩ := (edge_graph_iff hscan hkind).mp hedge
    intro hsiblings
    exact hnot hsiblings.symm

/-- A record of fewer than four requirements never has two siblings.  Two
siblings are in one record exactly if the record is of an interlock and a cycle
of its graph that ends a first route passes through both. -/
theorem siblings_in_record (hdetect : rules.detect requirements = .ok found) :
    (∀ record ∈ found, record.members.length < 4 →
      ∀ i ∈ record.members, ∀ j ∈ record.members, i ≠ j → ¬AreSiblings requirements i j) ∧
    ∃ scan, rules.scan requirements = .ok scan ∧
      ∀ kind i j, i ≠ j → AreSiblings requirements i j →
        ((∃ record ∈ found, record.kind = kind ∧ i ∈ record.members ∧ j ∈ record.members) ↔
          kind ∈ ConflictKind.interlock ∧
            ∃ loop, (scan.graph kind).IsCycle loop ∧ (scan.graph kind).EndsFirstRoute loop ∧
              i ∈ loop ∧ j ∈ loop) := by
  obtain ⟨scan, hscan, rfl⟩ := exists_scan_of_detect hdetect
  refine ⟨?_, scan, hscan, ?_⟩
  · intro record hrecord hlength i hi j hj hne
    rcases Scan.mem_finish_iff.mp hrecord with hrecord | ⟨hkind, hcycle⟩
    · exact not_areSiblings_of_mem_conflicts hscan hrecord hi hj hne
    · have hgraph := wellFormed_graph hscan hkind
      obtain ⟨_, loop, hloop, _, hlists⟩ := InterlockGraph.exists_of_mem_cycles hgraph hcycle
      have hloopI : i ∈ loop := (hlists.2 i).mp hi
      have hloopJ : j ∈ loop := (hlists.2 j).mp hj
      -- a record lists the nodes of its cycle, so that the cycle is as short as the record
      have hshort : loop.length ≤ record.members.length :=
        hloop.distinct.length_le_of_subset fun n hn => (hlists.2 n).mpr hn
      have hedge := hloop.edge_of_length_lt (Nat.lt_of_le_of_lt hshort hlength) hloopI hloopJ hne
      exact not_areSiblings_of_edge hscan hkind hedge
  · intro kind i j hne hsiblings
    constructor
    · rintro ⟨record, hrecord, rfl, hi, hj⟩
      rcases Scan.mem_finish_iff.mp hrecord with hrecord | ⟨hkind, hcycle⟩
      · exact absurd hsiblings (not_areSiblings_of_mem_conflicts hscan hrecord hi hj hne)
      · have hgraph := wellFormed_graph hscan hkind
        obtain ⟨_, loop, hloop, hends, hlists⟩ :=
          InterlockGraph.exists_of_mem_cycles hgraph hcycle
        exact ⟨hkind, loop, hloop, hends, (hlists.2 i).mp hi, (hlists.2 j).mp hj⟩
    · rintro ⟨hkind, loop, hloop, hends, hi, hj⟩
      have hgraph := wellFormed_graph hscan hkind
      have hlength : [i, j].length ≤ loop.length :=
        List.Nodup.length_le_of_subset (by simp [hne]) (by simp [hi, hj])
      obtain ⟨cycle, hcycle, hsub⟩ :=
        InterlockGraph.exists_mem_cycles hgraph hloop hends hlength
      have hrecord : ⟨kind, cycle⟩ ∈ scan.finish := by
        rw [Scan.mem_finish_iff]
        exact Or.inr ⟨hkind, hcycle⟩
      exact ⟨⟨kind, cycle⟩, hrecord, rfl, hsub hi, hsub hj⟩

/-- The system does something with one thing that yields another. -/
def turning (group : UInt32) (predicate input output : String) : Requirement where
  agent := .system
  operation := ⟨predicate, false, false⟩
  input := [.own ⟨input, .empty, false⟩]
  output := [.own ⟨output, .empty, false⟩]
  restriction := []
  id := 0
  group := group
  events := []

/-- The first and the third requirement are siblings. -/
def powerPlant : List Requirement :=
  [turning 5 "heat" "water" "steam", turning 0 "drive" "steam" "torque",
    turning 5 "generate" "torque" "current", turning 0 "pump" "current" "water"]

theorem areSiblings_powerPlant : AreSiblings powerPlant 0 2 :=
  ⟨_, _, rfl, rfl, by decide⟩

theorem detect_powerPlant :
    BuiltinRules.ruleSet.detect powerPlant = .ok [⟨.inputOutputInterlock, [0, 1, 2, 3]⟩] :=
  toOption_eq_some_iff.mp (by decide +kernel)

theorem siblings_in_record_powerPlant :
    BuiltinRules.ruleSet.detect powerPlant = .ok [⟨.inputOutputInterlock, [0, 1, 2, 3]⟩] ∧
      AreSiblings powerPlant 0 2 ∧
        ∃ scan, BuiltinRules.ruleSet.scan powerPlant = .ok scan ∧
          ∃ loop, (scan.graph .inputOutputInterlock).IsCycle loop ∧ 0 ∈ loop ∧ 2 ∈ loop := by
  obtain ⟨_, scan, hscan, hrecord⟩ := siblings_in_record detect_powerPlant
  obtain ⟨_, loop, hloop, _, hfirst, hthird⟩ :=
    (hrecord .inputOutputInterlock 0 2 (by decide) areSiblings_powerPlant).mp
      ⟨_, List.mem_singleton_self _, rfl, by decide, by decide⟩
  exact ⟨detect_powerPlant, areSiblings_powerPlant, scan, hscan, loop, hloop, hfirst, hthird⟩

/-- Siblings are reported as conflicting. -/
theorem not_forall_not_areSiblings :
    ¬ ∀ (document : RulesDocument) (rules : RuleSet), ofDocument document = .ok rules →
      ∀ (requirements : List Requirement) (found : List (Conflict Nat)),
        rules.detect requirements = .ok found →
          ∀ record ∈ found, ∀ i ∈ record.members, ∀ j ∈ record.members, i ≠ j →
            ¬AreSiblings requirements i j := by
  intro hexempt
  obtain ⟨document, _, hrules⟩ :=
    BuiltinRules.exists_document_of_compiled? BuiltinRules.compiled?_builtinText
  exact hexempt document _ hrules powerPlant _ detect_powerPlant _ (List.mem_singleton_self _)
    0 (by decide) 2 (by decide) (by decide) areSiblings_powerPlant

end RuleSet

end ReqConflict
