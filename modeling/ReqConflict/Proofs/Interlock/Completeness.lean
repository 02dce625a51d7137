import ReqConflict.Proofs.Interlock.Walk

/-!
# What the cycles of an interlock graph are

The cycles that are reported are node sets of simple cycles, none of them
contained in another, and together they cover every node that lies on a cycle
of at least two nodes.

They are not all the maximal cycles.  A walk closes a cycle only at the end of
a first route, since every node is visited once for each start, so a cycle is
covered as a whole exactly if its nodes lie on a cycle that ends a first route.
The last section has a graph of four nodes with a cycle through all of them
that does not.
-/

namespace ReqConflict.InterlockGraph

variable {graph : InterlockGraph} {nodes loop lead cycle : List Nat} {node start : Nat}

/-- The nodes of a simple directed cycle in their order: they are different,
and there is an edge from each to the next and from the last to the first. -/
structure IsCycle (graph : InterlockGraph) (nodes : List Nat) : Prop where
  distinct : nodes.Nodup
  steps : nodes.IsChain graph.Edge
  closes : ∃ first last, nodes.head? = some first ∧ nodes.getLast? = some last ∧
    graph.Edge last first

/-- The nodes of a cycle are the last ones of a first route, from some start. -/
def EndsFirstRoute (graph : InterlockGraph) (loop : List Nat) : Prop :=
  ∃ start lead, graph.IsFirst [] [start] (lead ++ loop)

/-- A list of nodes in ascending order. -/
def Lists (cycle nodes : List Nat) : Prop :=
  cycle.Pairwise (· < ·) ∧ ∀ n, n ∈ cycle ↔ n ∈ nodes

theorem Edge.source_lt {target : Nat} (hedge : graph.Edge node target) :
    node < graph.nodeCount := by
  by_contra hlarge
  have hnone : graph.adjacency[node]? = none :=
    List.getElem?_eq_none (Nat.not_lt.mp hlarge)
  simp [Edge, successors, List.getD, hnone] at hedge

theorem wellFormed_iff :
    graph.WellFormed ↔
      ∀ targets ∈ graph.adjacency, ∀ target ∈ targets, target < graph.nodeCount := by
  constructor
  · intro hgraph targets htargets target htarget
    obtain ⟨source, hsource⟩ := List.getElem?_of_mem htargets
    apply hgraph source target
    rw [Edge, successors, List.getD, hsource]
    exact htarget
  · intro hadjacency source target hedge
    have hsource : source < graph.adjacency.length := hedge.source_lt
    rw [Edge, successors, List.getD, List.getElem?_eq_getElem hsource] at hedge
    exact hadjacency _ (List.getElem_mem hsource) target hedge

instance : Decidable graph.WellFormed :=
  decidable_of_iff _ wellFormed_iff.symm

instance {target : Nat} : Decidable (graph.Edge node target) :=
  inferInstanceAs (Decidable (_ ∈ _))

theorem IsCycle.exists_cons (hcycle : graph.IsCycle nodes) :
    ∃ first rest, nodes = first :: rest := by
  obtain ⟨first, _, hfirst, _, _⟩ := hcycle.closes
  exact ⟨first, nodes.tail, List.eq_cons_of_mem_head? hfirst⟩

theorem IsCycle.rotate {before after : List Nat} (hcycle : graph.IsCycle (before ++ after)) :
    graph.IsCycle (after ++ before) := by
  cases before with
  | nil => simpa using hcycle
  | cons first before =>
      cases hafter : after.getLast? with
      | none =>
          rw [List.getLast?_eq_none_iff] at hafter
          subst hafter
          simpa using hcycle
      | some last =>
          obtain ⟨next, rest, hrest⟩ : ∃ next rest, after = next :: rest := by
            cases after with
            | nil => simp at hafter
            | cons next rest => exact ⟨next, rest, rfl⟩
          have hsteps := List.isChain_append.mp hcycle.steps
          have hclose : graph.Edge last first := by
            obtain ⟨first', last', hfirst, hlast, hedge⟩ := hcycle.closes
            have hfirst : first = first' := by simpa using hfirst
            have hlast : last = last' := by
              rw [List.getLast?_append, hafter] at hlast
              exact Option.some.inj hlast
            rwa [hfirst, hlast]
          constructor
          · exact List.nodup_append_comm.mp hcycle.distinct
          · refine List.isChain_append.mpr ⟨hsteps.2.1, hsteps.1, ?_⟩
            intro n hn m hm
            have hn : last = n := by simpa [hafter] using hn
            have hm : first = m := by simpa using hm
            rw [← hn, ← hm]
            exact hclose
          · obtain ⟨end', hend⟩ : ∃ end', (first :: before).getLast? = some end' :=
              ⟨_, List.getLast?_cons⟩
            refine ⟨next, end', by simp [hrest], by simp [hend], ?_⟩
            exact hsteps.2.2 end' hend next (by simp [hrest])

theorem IsCycle.node_lt (hgraph : graph.WellFormed) (hcycle : graph.IsCycle nodes)
    (hnode : node ∈ nodes) : node < graph.nodeCount := by
  obtain ⟨before, after, rfl⟩ := List.append_of_mem hnode
  obtain ⟨first, last, hfirst, _, hedge⟩ := hcycle.rotate.closes
  have hnode : node = first := by simpa using hfirst
  exact hgraph last node (hnode ▸ hedge)

def ascending (graph : InterlockGraph) (nodes : List Nat) : List Nat :=
  (List.range graph.nodeCount).filter nodes.contains

theorem mem_ascending_iff {n : Nat} :
    n ∈ graph.ascending nodes ↔ n < graph.nodeCount ∧ n ∈ nodes := by
  simp [ascending]

theorem pairwise_ascending : (graph.ascending nodes).Pairwise (· < ·) :=
  List.pairwise_lt_range.filter _

theorem IsCycle.lists_ascending (hgraph : graph.WellFormed) (hcycle : graph.IsCycle nodes) :
    Lists (graph.ascending nodes) nodes := by
  refine ⟨pairwise_ascending, fun n => ?_⟩
  rw [mem_ascending_iff]
  exact ⟨fun hmem => hmem.2, fun hmem => ⟨hcycle.node_lt hgraph hmem, hmem⟩⟩

/-- A node of a route closes the part of the route from there on. -/
theorem closed?_reverse {tail : List Nat} (hdistinct : (lead ++ node :: tail).Nodup) :
    graph.closed? (lead ++ node :: tail).reverse node =
      some (graph.ascending (node :: tail)) := by
  have hreverse : (lead ++ node :: tail).reverse = tail.reverse ++ node :: lead.reverse := by
    simp
  have hnode : node ∉ tail :=
    (List.nodup_cons.mp hdistinct.of_append_right).1
  have hothers : (tail.reverse ++ node :: lead.reverse).takeWhile (· != node) =
      tail.reverse := by
    rw [List.takeWhile_append_of_pos]
    · simp
    · intro n hn
      have hne : n ≠ node := fun heq => hnode (heq ▸ List.mem_reverse.mp hn)
      simpa using hne
  have hcontains : (tail.reverse ++ node :: lead.reverse).contains node = true := by
    simp
  rw [closed?, hreverse, hcontains, if_pos rfl, hothers]
  refine congrArg some (List.filter_congr fun n _ => ?_)
  rw [List.contains_cons, List.contains_eq_mem, List.contains_eq_mem]
  simp only [List.mem_reverse]

theorem mem_of_closed? (hclosed : graph.closed? lead node = some cycle) : node ∈ lead := by
  by_contra hmem
  rw [closed?_of_not_mem hmem] at hclosed
  cases hclosed

/-! ## The cycles that walks close -/

theorem closes_start_iff (hgraph : graph.WellFormed) :
    (∃ start, start < graph.nodeCount ∧ graph.Closes [] [start] [] cycle) ↔
      ∃ loop, graph.IsCycle loop ∧ graph.EndsFirstRoute loop ∧
        cycle = graph.ascending loop := by
  constructor
  · rintro ⟨start, _, route, hfirst, back, hback, hclosed⟩
    rw [List.append_nil] at hclosed
    have hmem : back ∈ route := List.mem_reverse.mp (mem_of_closed? hclosed)
    obtain ⟨lead, tail, rfl⟩ := List.append_of_mem hmem
    have hlast : (lead ++ back :: tail).getLast? = some (tail.getLast?.getD back) := by
      rw [List.getLast?_append_of_ne_nil lead (List.cons_ne_nil back tail),
        List.getLast?_cons]
    have hedge : graph.Edge (tail.getLast?.getD back) back := by
      rw [onward, hlast] at hback
      exact hback
    refine ⟨back :: tail, ?_, ⟨start, lead, hfirst⟩, ?_⟩
    · exact ⟨hfirst.1.distinct.of_append_right, hfirst.1.steps.right_of_append,
        back, _, rfl, List.getLast?_cons, hedge⟩
    · rw [closed?_reverse hfirst.1.distinct] at hclosed
      exact (Option.some.inj hclosed).symm
  · rintro ⟨loop, hcycle, ⟨start, lead, hfirst⟩, rfl⟩
    obtain ⟨back, tail, rfl⟩ := hcycle.exists_cons
    have hstart : start < graph.nodeCount := by
      cases lead with
      | nil =>
          have heq : back = start := List.mem_singleton.mp (hfirst.1.starts back rfl)
          exact heq ▸ hcycle.node_lt hgraph List.mem_cons_self
      | cons first lead =>
          have heq : first = start := List.mem_singleton.mp (hfirst.1.starts first rfl)
          subst first
          have hsteps := List.isChain_cons.mp hfirst.1.steps
          obtain ⟨next, hnext⟩ : ∃ next, (lead ++ back :: tail).head? = some next := by
            cases lead with
            | nil => exact ⟨back, rfl⟩
            | cons next lead => exact ⟨next, rfl⟩
          exact (hsteps.1 next hnext).source_lt
    obtain ⟨first, last, hhead, hlast, hedge⟩ := hcycle.closes
    have hback : back = first := by simpa using hhead
    subst first
    refine ⟨start, hstart, lead ++ back :: tail, hfirst, back, ?_, ?_⟩
    · rw [onward, List.getLast?_append_of_ne_nil lead (List.cons_ne_nil back tail), hlast]
      exact hedge
    · rw [List.append_nil]
      exact closed?_reverse hfirst.1.distinct

theorem fits_start (graph : InterlockGraph) (accepted : List (List Nat)) :
    Walk.Fits graph graph.nodeCount ⟨[], accepted⟩ := by
  constructor <;> simp

theorem explores_start (hgraph : graph.WellFormed) (accepted : List (List Nat))
    (hstart : start < graph.nodeCount) :
    graph.Explores [] [start] ⟨[], accepted⟩
      (graph.visit graph.nodeCount [] ⟨[], accepted⟩ start) :=
  explores_visit hgraph hstart (fits_start graph accepted) (by simp)

theorem exists_isFirst (hgraph : graph.WellFormed) (hstart : start < graph.nodeCount)
    (hreaches : graph.Reaches [] [start] node) :
    ∃ route, graph.IsFirst [] [start] route ∧ route.getLast? = some node :=
  (explores_start hgraph [] hstart).first node hreaches

theorem foldl_walkFrom (hgraph : graph.WellFormed) (starts : List Nat)
    (hstarts : ∀ start ∈ starts, start < graph.nodeCount) (accepted : List (List Nat)) :
    ∃ found : List (List Nat),
      starts.foldl graph.walkFrom accepted = found.foldl merge accepted ∧
        ∀ cycle, cycle ∈ found ↔ ∃ start ∈ starts, graph.Closes [] [start] [] cycle := by
  induction starts generalizing accepted with
  | nil => exact ⟨[], rfl, by simp⟩
  | cons start starts ih =>
      have hstart := hstarts start List.mem_cons_self
      obtain ⟨found, hfound, hcloses⟩ := (explores_start hgraph accepted hstart).accepted
      obtain ⟨found', hfound', hcloses'⟩ :=
        ih (fun n hn => hstarts n (List.mem_cons_of_mem start hn))
          (graph.walkFrom accepted start)
      refine ⟨found ++ found', ?_, fun cycle => ?_⟩
      · rw [List.foldl_cons, hfound', List.foldl_append]
        exact congrArg (found'.foldl merge) hfound
      · rw [List.mem_append, hcloses cycle, hcloses' cycle]
        simp

/-- The cycles that are merged are those that end a first route. -/
theorem foldl_range_walkFrom (hgraph : graph.WellFormed) :
    ∃ found : List (List Nat),
      (List.range graph.nodeCount).foldl graph.walkFrom [] = found.foldl merge [] ∧
        ∀ cycle, cycle ∈ found ↔ ∃ loop, graph.IsCycle loop ∧ graph.EndsFirstRoute loop ∧
          cycle = graph.ascending loop := by
  obtain ⟨found, hfound, hcloses⟩ :=
    foldl_walkFrom hgraph (List.range graph.nodeCount) (by simp) []
  refine ⟨found, hfound, fun cycle => ?_⟩
  rw [hcloses cycle, ← closes_start_iff hgraph]
  simp

theorem Lists.length_le (hlists : Lists cycle nodes) : cycle.length ≤ nodes.length := by
  have hdistinct : cycle.Nodup := hlists.1.imp Nat.ne_of_lt
  exact hdistinct.length_le_of_subset fun n hn => (hlists.2 n).mp hn

theorem exists_of_mem_cycles (hgraph : graph.WellFormed) (hmem : cycle ∈ graph.cycles) :
    2 ≤ cycle.length ∧ ∃ loop, graph.IsCycle loop ∧ graph.EndsFirstRoute loop ∧
      Lists cycle loop := by
  obtain ⟨found, hfound, hloops⟩ := foldl_range_walkFrom hgraph
  rw [cycles, hfound, List.mem_filter] at hmem
  have hlength : 2 ≤ cycle.length := of_decide_eq_true hmem.2
  obtain ⟨loop, hcycle, hends, rfl⟩ :=
    (hloops cycle).mp ((mem_foldl_merge hmem.1).resolve_left List.not_mem_nil)
  exact ⟨hlength, loop, hcycle, hends, hcycle.lists_ascending hgraph⟩

theorem exists_mem_cycles (hgraph : graph.WellFormed) (hcycle : graph.IsCycle loop)
    (hends : graph.EndsFirstRoute loop) (hlength : 2 ≤ loop.length) :
    ∃ cycle ∈ graph.cycles, loop ⊆ cycle := by
  obtain ⟨found, hfound, hloops⟩ := foldl_range_walkFrom hgraph
  have hmem : graph.ascending loop ∈ found :=
    (hloops _).mpr ⟨loop, hcycle, hends, rfl⟩
  obtain ⟨larger, hlarger, hsub⟩ := exists_superset_foldl_merge (Or.inr hmem)
  have hloop : loop ⊆ larger := fun n hn =>
    hsub ((hcycle.lists_ascending hgraph).2 n |>.mpr hn)
  have hlong : 1 < larger.length :=
    Nat.lt_of_lt_of_le hlength (hcycle.distinct.length_le_of_subset hloop)
  refine ⟨larger, ?_, hloop⟩
  rw [cycles, hfound]
  exact List.mem_filter.mpr ⟨hlarger, decide_eq_true hlong⟩

theorem pairwise_cycles (hgraph : graph.WellFormed) : graph.cycles.Pairwise Incomparable := by
  obtain ⟨found, hfound, _⟩ := foldl_range_walkFrom hgraph
  rw [cycles, hfound]
  exact (pairwise_foldl_merge List.Pairwise.nil).filter _

/-- From each of its nodes, the first route to the node before it closes a
cycle through both. -/
theorem IsCycle.exists_cycle_through (hgraph : graph.WellFormed) (hcycle : graph.IsCycle nodes)
    (hlength : 2 ≤ nodes.length) (hnode : node ∈ nodes) :
    ∃ cycle ∈ graph.cycles, node ∈ cycle := by
  obtain ⟨before, after, rfl⟩ := List.append_of_mem hnode
  have hrotated : graph.IsCycle (node :: (after ++ before)) := hcycle.rotate
  obtain ⟨last, hlast⟩ : ∃ last, (after ++ before).getLast? = some last := by
    cases hrest : (after ++ before).getLast? with
    | some last => exact ⟨last, rfl⟩
    | none =>
        have hnil := congrArg List.length (List.getLast?_eq_none_iff.mp hrest)
        simp only [List.length_append, List.length_cons, List.length_nil] at hlength hnil
        omega
  have hedge : graph.Edge last node := by
    obtain ⟨first, last', hfirst, hlast', hedge⟩ := hrotated.closes
    rw [List.getLast?_cons, hlast] at hlast'
    have hfirst : node = first := by simpa using hfirst
    have hlast' : last = last' := Option.some.inj hlast'
    rwa [hfirst, hlast']
  have hstart : graph.Reaches [] [node] node :=
    reaches_singleton_iff.mpr ⟨List.not_mem_nil, Or.inl rfl⟩
  have hreaches : graph.Reaches [] [node] last :=
    hstart.along hrotated.steps (fun _ _ => List.not_mem_nil)
      (List.mem_cons_of_mem node (List.mem_of_getLast? hlast))
  obtain ⟨route, hroute, hend⟩ := exists_isFirst hgraph (hgraph last node hedge) hreaches
  cases route with
  | nil => simp at hend
  | cons first tail =>
      have hfirst : first = node := List.mem_singleton.mp (hroute.1.starts first rfl)
      subst first
      have hne : last ≠ node := fun heq =>
        (List.nodup_cons.mp hrotated.distinct).1 (heq ▸ List.mem_of_getLast? hlast)
      have htail : tail ≠ [] := by
        rintro rfl
        exact hne (by simpa using hend.symm)
      have hloop : graph.IsCycle (node :: tail) :=
        ⟨hroute.1.distinct, hroute.1.steps, node, last, rfl, hend, hedge⟩
      have hlong : 2 ≤ (node :: tail).length := by
        have hpos := List.length_pos_of_ne_nil htail
        simp only [List.length_cons]
        omega
      obtain ⟨cycle, hmem, hsub⟩ :=
        exists_mem_cycles hgraph hloop ⟨node, [], hroute⟩ hlong
      exact ⟨cycle, hmem, hsub List.mem_cons_self⟩

/-! ## Main results -/

/-- Every reported cycle is the node set of a simple cycle of at least two
nodes, every node on such a cycle is reported, and no reported cycle is
contained in another. -/
theorem cycles_sound_and_covering (hgraph : graph.WellFormed) :
    (∀ cycle ∈ graph.cycles,
      2 ≤ cycle.length ∧ ∃ nodes, graph.IsCycle nodes ∧ Lists cycle nodes) ∧
    (∀ node, (∃ cycle ∈ graph.cycles, node ∈ cycle) ↔
      ∃ nodes, graph.IsCycle nodes ∧ 2 ≤ nodes.length ∧ node ∈ nodes) ∧
    (graph.cycles = [] ↔ ¬ ∃ nodes, graph.IsCycle nodes ∧ 2 ≤ nodes.length) ∧
    graph.cycles.Pairwise Incomparable := by
  refine ⟨?_, ?_, ?_, pairwise_cycles hgraph⟩
  · intro cycle hmem
    obtain ⟨hlength, nodes, hcycle, _, hlists⟩ := exists_of_mem_cycles hgraph hmem
    exact ⟨hlength, nodes, hcycle, hlists⟩
  · intro node
    constructor
    · rintro ⟨cycle, hmem, hnode⟩
      obtain ⟨hlength, nodes, hcycle, _, hlists⟩ := exists_of_mem_cycles hgraph hmem
      exact ⟨nodes, hcycle, Nat.le_trans hlength hlists.length_le,
        (hlists.2 node).mp hnode⟩
    · rintro ⟨nodes, hcycle, hlength, hnode⟩
      exact hcycle.exists_cycle_through hgraph hlength hnode
  · constructor
    · rintro hempty ⟨nodes, hcycle, hlength⟩
      obtain ⟨first, rest, rfl⟩ := hcycle.exists_cons
      obtain ⟨cycle, hmem, _⟩ :=
        hcycle.exists_cycle_through hgraph hlength List.mem_cons_self
      simp [hempty] at hmem
    · intro hnone
      refine List.eq_nil_iff_forall_not_mem.mpr fun cycle hmem => ?_
      obtain ⟨hlength, nodes, hcycle, _, hlists⟩ := exists_of_mem_cycles hgraph hmem
      exact hnone ⟨nodes, hcycle, Nat.le_trans hlength hlists.length_le⟩

/-- A cycle through four nodes, with an edge each way between two of them that
are opposite. -/
def crossed : InterlockGraph :=
  ⟨[[2], [3], [3, 1], [2, 0]]⟩

theorem isCycle_crossed : crossed.IsCycle [0, 2, 1, 3] := by
  refine ⟨by decide, ?_, 0, 3, rfl, rfl, by decide⟩
  simp [crossed, Edge, successors]

theorem cycles_sound_and_covering_crossed :
    crossed.WellFormed ∧ crossed.Edge 3 0 ∧
      (∃ cycle ∈ crossed.cycles, 1 ∈ cycle) ∧ crossed.cycles.Pairwise Incomparable := by
  have hgraph : crossed.WellFormed := by decide
  have hspec := cycles_sound_and_covering hgraph
  exact ⟨hgraph, by decide,
    (hspec.2.1 1).mpr ⟨[0, 2, 1, 3], isCycle_crossed, by decide, by decide⟩, hspec.2.2.2⟩

/-- A cycle is covered as a whole exactly if its nodes lie on a cycle that ends
a first route.  One whose node set is maximal is reported exactly if its nodes
are those of a cycle that ends a first route. -/
theorem subset_cycle_iff_endsFirstRoute (hgraph : graph.WellFormed)
    (hcycle : graph.IsCycle nodes) (hlength : 2 ≤ nodes.length) :
    ((∃ cycle ∈ graph.cycles, nodes ⊆ cycle) ↔
      ∃ loop, graph.IsCycle loop ∧ graph.EndsFirstRoute loop ∧ nodes ⊆ loop) ∧
    ((∀ other, graph.IsCycle other → nodes ⊆ other → other ⊆ nodes) →
      ((∃ cycle ∈ graph.cycles, Lists cycle nodes) ↔
        ∃ loop, graph.IsCycle loop ∧ graph.EndsFirstRoute loop ∧
          ∀ n, n ∈ loop ↔ n ∈ nodes)) := by
  have hlong : ∀ {loop}, nodes ⊆ loop → 2 ≤ loop.length := by
    intro loop hsub
    exact Nat.le_trans hlength (hcycle.distinct.length_le_of_subset hsub)
  constructor
  · constructor
    · rintro ⟨cycle, hmem, hsub⟩
      obtain ⟨_, loop, hloop, hends, hlists⟩ := exists_of_mem_cycles hgraph hmem
      exact ⟨loop, hloop, hends, fun n hn => (hlists.2 n).mp (hsub hn)⟩
    · rintro ⟨loop, hloop, hends, hsub⟩
      obtain ⟨cycle, hmem, hsub'⟩ := exists_mem_cycles hgraph hloop hends (hlong hsub)
      exact ⟨cycle, hmem, List.Subset.trans hsub hsub'⟩
  · intro hmaximal
    constructor
    · rintro ⟨cycle, hmem, hlists⟩
      obtain ⟨_, loop, hloop, hends, hlists'⟩ := exists_of_mem_cycles hgraph hmem
      exact ⟨loop, hloop, hends, fun n => (hlists'.2 n).symm.trans (hlists.2 n)⟩
    · rintro ⟨loop, hloop, hends, hsame⟩
      have hsub : nodes ⊆ loop := fun n hn => (hsame n).mpr hn
      obtain ⟨cycle, hmem, hsub'⟩ := exists_mem_cycles hgraph hloop hends (hlong hsub)
      obtain ⟨_, other, hother, _, hlists⟩ := exists_of_mem_cycles hgraph hmem
      have hlarger : nodes ⊆ other := fun n hn => (hlists.2 n).mp (hsub' (hsub hn))
      refine ⟨cycle, hmem, hlists.1, fun n => (hlists.2 n).trans ?_⟩
      exact ⟨fun hn => hmaximal other hother hlarger hn, fun hn => hlarger hn⟩

theorem subset_cycle_iff_endsFirstRoute_crossed :
    crossed.WellFormed ∧ crossed.IsCycle [0, 2, 3] ∧
      ∃ loop, crossed.IsCycle loop ∧ crossed.EndsFirstRoute loop ∧ [0, 2, 3] ⊆ loop := by
  have hgraph : crossed.WellFormed := by decide
  have hcycle : crossed.IsCycle [0, 2, 3] := by
    refine ⟨by decide, ?_, 0, 3, rfl, rfl, by decide⟩
    simp [crossed, Edge, successors]
  have hcovered := subset_cycle_iff_endsFirstRoute hgraph hcycle (by decide)
  exact ⟨hgraph, hcycle,
    hcovered.1.mp ⟨[0, 2, 3], by decide, List.Subset.refl _⟩⟩

/-- Not every cycle is covered: the one through all nodes of `crossed` has four
nodes, and the cycles reported have three. -/
theorem not_forall_subset_cycle :
    ¬ ∀ (graph : InterlockGraph) (nodes : List Nat), graph.WellFormed →
      graph.IsCycle nodes → 2 ≤ nodes.length → ∃ cycle ∈ graph.cycles, nodes ⊆ cycle := by
  intro hcomplete
  obtain ⟨cycle, hmem, hsub⟩ :=
    hcomplete crossed [0, 2, 1, 3] (by decide) isCycle_crossed (by decide)
  have hcycles : crossed.cycles = [[0, 2, 3], [1, 2, 3]] := by decide
  rw [hcycles] at hmem
  have hlength := isCycle_crossed.distinct.length_le_of_subset hsub
  rcases List.mem_cons.mp hmem with rfl | hmem
  · simp at hlength
  · rw [List.mem_singleton.mp hmem] at hlength
    simp at hlength

end ReqConflict.InterlockGraph
