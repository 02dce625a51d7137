import ReqConflict.Proofs.Interlock.Merge
import ReqConflict.Proofs.Interlock.Route

/-!
# What a walk finds

A walk visits exactly the nodes that some route leads to, and merges exactly
the cycles that are closed from the end of a first route.  Both are shown for a
walk from a choice of nodes with some nodes visited before, by induction on the
remaining depth; the depth suffices because every step down visits a new node
of the graph.
-/

namespace ReqConflict.InterlockGraph

variable {graph : InterlockGraph} {path choices off : List Nat} {node choice : Nat}
  {depth : Nat} {walk between after : Walk} {cycle : List Nat}

/-- Every edge leads to a node of the graph. -/
def WellFormed (graph : InterlockGraph) : Prop :=
  ∀ source target, graph.Edge source target → target < graph.nodeCount

theorem visit_of_mem (hvisited : node ∈ walk.visited) :
    graph.visit depth path walk node =
      match graph.closed? path node with
      | some cycle => { walk with accepted := merge walk.accepted cycle }
      | none => walk := by
  unfold visit
  exact if_pos (List.contains_iff_mem.mpr hvisited)

theorem visit_of_not_mem (hvisited : node ∉ walk.visited) :
    graph.visit (depth + 1) path walk node =
      (graph.successors node).foldl (graph.visit depth (node :: path))
        { walk with visited := node :: walk.visited } := by
  conv_lhs => unfold visit
  rw [if_neg (fun hmem => hvisited (List.contains_iff_mem.mp hmem))]

theorem visited_visit_of_mem (hvisited : node ∈ walk.visited) :
    (graph.visit depth path walk node).visited = walk.visited := by
  rw [visit_of_mem hvisited]
  split <;> rfl

/-- The visited nodes are different nodes of the graph, and the depth that is
left suffices for all others. -/
structure Walk.Fits (graph : InterlockGraph) (depth : Nat) (walk : Walk) : Prop where
  distinct : walk.visited.Nodup
  known : ∀ node ∈ walk.visited, node < graph.nodeCount
  room : graph.nodeCount ≤ walk.visited.length + depth

theorem Walk.Fits.enter (hfits : walk.Fits graph (depth + 1)) (hnode : node < graph.nodeCount)
    (hvisited : node ∉ walk.visited) :
    Walk.Fits graph depth { walk with visited := node :: walk.visited } where
  distinct := List.nodup_cons.mpr ⟨hvisited, hfits.distinct⟩
  known := by
    intro n hn
    rcases List.mem_cons.mp hn with rfl | hn
    · exact hnode
    · exact hfits.known n hn
  room := by
    have hroom := hfits.room
    simp only [List.length_cons]
    omega

theorem Walk.Fits.mem_of_zero (hfits : walk.Fits graph 0) (hnode : node < graph.nodeCount) :
    node ∈ walk.visited := by
  by_contra hvisited
  have hdistinct : (node :: walk.visited).Nodup :=
    List.nodup_cons.mpr ⟨hvisited, hfits.distinct⟩
  have hsub : node :: walk.visited ⊆ List.range graph.nodeCount := by
    intro n hn
    rcases List.mem_cons.mp hn with rfl | hn
    · exact List.mem_range.mpr hnode
    · exact List.mem_range.mpr (hfits.known n hn)
  have hlength := hdistinct.length_le_of_subset hsub
  have hroom := hfits.room
  simp only [List.length_cons, List.length_range] at hlength
  omega

theorem Walk.Fits.foldl_visit
    (hvisit : ∀ walk node, node < graph.nodeCount → walk.Fits graph depth →
      (graph.visit depth path walk node).Fits graph depth)
    (hchoices : ∀ node ∈ choices, node < graph.nodeCount) (hfits : walk.Fits graph depth) :
    (choices.foldl (graph.visit depth path) walk).Fits graph depth := by
  induction choices generalizing walk with
  | nil => exact hfits
  | cons choice choices ih =>
      apply ih
      · exact fun n hn => hchoices n (List.mem_cons_of_mem choice hn)
      · exact hvisit walk choice (hchoices choice List.mem_cons_self) hfits

theorem Walk.Fits.visit (hgraph : graph.WellFormed) (hnode : node < graph.nodeCount)
    (hfits : walk.Fits graph depth) :
    (graph.visit depth path walk node).Fits graph depth := by
  induction depth generalizing path walk node with
  | zero =>
      have hvisited := hfits.mem_of_zero hnode
      have hsame : (graph.visit 0 path walk node).visited = walk.visited :=
        visited_visit_of_mem hvisited
      exact ⟨hsame ▸ hfits.distinct, hsame ▸ hfits.known, hsame ▸ hfits.room⟩
  | succ depth ih =>
      by_cases hvisited : node ∈ walk.visited
      · have hsame : (graph.visit (depth + 1) path walk node).visited = walk.visited :=
          visited_visit_of_mem hvisited
        exact ⟨hsame ▸ hfits.distinct, hsame ▸ hfits.known, hsame ▸ hfits.room⟩
      · rw [visit_of_not_mem hvisited]
        have hbelow : Walk.Fits graph depth
            ((graph.successors node).foldl (graph.visit depth (node :: path))
              { walk with visited := node :: walk.visited }) := by
          apply Walk.Fits.foldl_visit
          · exact fun walk n hn hfits => ih hn hfits
          · exact fun n hn => hgraph node n hn
          · exact hfits.enter hnode hvisited
        exact ⟨hbelow.distinct, hbelow.known, by have := hbelow.room; omega⟩

/-! ## Cycles closed by first routes -/

/-- The nodes that come next behind a route. -/
def onward (graph : InterlockGraph) (choices path : List Nat) : List Nat :=
  match path.getLast? with
  | none => choices
  | some last => graph.successors last

/-- A cycle is closed by an edge from the end of a first route back to a node of
the route, or of the path in front of it. -/
def Closes (graph : InterlockGraph) (path choices off cycle : List Nat) : Prop :=
  ∃ route, graph.IsFirst off choices route ∧
    ∃ back ∈ graph.onward choices route,
      graph.closed? (route.reverse ++ path) back = some cycle

/-- What a walk from the choices, behind a path, makes of a state. -/
structure Explores (graph : InterlockGraph) (path choices : List Nat) (before after : Walk) :
    Prop where
  visited : ∀ n, n ∈ after.visited ↔
    n ∈ before.visited ∨ graph.Reaches before.visited choices n
  accepted : ∃ found : List (List Nat), after.accepted = found.foldl merge before.accepted ∧
    ∀ cycle, cycle ∈ found ↔ graph.Closes path choices before.visited cycle
  first : ∀ n, graph.Reaches before.visited choices n →
    ∃ route, graph.IsFirst before.visited choices route ∧ route.getLast? = some n

theorem Explores.visits (hexplores : graph.Explores path [choice] walk between) :
    graph.Visits walk.visited choice between.visited :=
  hexplores.visited

theorem onward_cons : graph.onward choices (node :: path) =
    graph.onward (graph.successors node) path := by
  unfold onward
  rw [List.getLast?_cons]
  cases path.getLast? <;> rfl

theorem isFirst_singleton_of_mem (hoff : node ∈ off) :
    graph.IsFirst off [node] path ↔ path = [] := by
  constructor
  · intro hfirst
    cases path with
    | nil => rfl
    | cons start path =>
        obtain ⟨hstart, hnot, _⟩ := isRoute_cons_iff.mp hfirst.1
        rw [List.mem_singleton.mp hstart] at hnot
        exact absurd hoff hnot
  · rintro rfl
    exact isFirst_nil

theorem Visits.closes_cons_iff {visited : List Nat}
    (hvisits : graph.Visits off choice visited) :
    graph.Closes path (choice :: choices) off cycle ↔
      graph.Closes path [choice] off cycle ∨ graph.Closes path choices visited cycle := by
  constructor
  · rintro ⟨route, hfirst, back, hback, hclosed⟩
    cases route with
    | nil =>
        rcases List.mem_cons.mp hback with rfl | hback
        · exact Or.inl ⟨[], isFirst_nil, back, List.mem_singleton_self back, hclosed⟩
        · exact Or.inr ⟨[], isFirst_nil, back, hback, hclosed⟩
    | cons start route =>
        rw [onward_cons] at hback
        rcases hvisits.isFirst_cons_iff.mp hfirst with hfirst | hfirst
        · exact Or.inl ⟨start :: route, hfirst, back, onward_cons ▸ hback, hclosed⟩
        · exact Or.inr ⟨start :: route, hfirst, back, onward_cons ▸ hback, hclosed⟩
  · rintro (⟨route, hfirst, back, hback, hclosed⟩ | ⟨route, hfirst, back, hback, hclosed⟩)
    · refine ⟨route, isFirst_cons_of_singleton hfirst, back, ?_, hclosed⟩
      cases route with
      | nil => exact List.mem_cons.mpr (Or.inl (List.mem_singleton.mp hback))
      | cons start route => rwa [onward_cons] at hback ⊢
    · refine ⟨route, hvisits.isFirst_cons hfirst, back, ?_, hclosed⟩
      cases route with
      | nil => exact List.mem_cons_of_mem choice hback
      | cons start route => rwa [onward_cons] at hback ⊢

theorem closed?_of_not_mem (hpath : node ∉ path) : graph.closed? path node = none := by
  have hcontains : path.contains node = false := by
    simpa using hpath
  rw [closed?, hcontains]
  rfl

theorem closes_singleton_iff (hoff : node ∉ off) (hpath : node ∉ path) :
    graph.Closes path [node] off cycle ↔
      graph.Closes (node :: path) (graph.successors node) (node :: off) cycle := by
  have htrace : ∀ route : List Nat,
      (node :: route).reverse ++ path = route.reverse ++ node :: path := by
    intro route
    simp
  constructor
  · rintro ⟨route, hfirst, back, hback, hclosed⟩
    cases route with
    | nil =>
        have hnode : back = node := List.mem_singleton.mp hback
        subst back
        have hnone : graph.closed? path node = none := closed?_of_not_mem hpath
        have hsome : graph.closed? path node = some cycle := hclosed
        rw [hnone] at hsome
        cases hsome
    | cons start route =>
        have hnode : start = node := List.mem_singleton.mp (hfirst.1.starts start rfl)
        subst start
        refine ⟨route, (isFirst_singleton_cons_iff hoff).mp hfirst, back, ?_, ?_⟩
        · rwa [onward_cons] at hback
        · rwa [htrace] at hclosed
  · rintro ⟨route, hfirst, back, hback, hclosed⟩
    refine ⟨node :: route, (isFirst_singleton_cons_iff hoff).mpr hfirst, back, ?_, ?_⟩
    · rwa [onward_cons]
    · rwa [htrace]

theorem explores_of_mem (hvisited : node ∈ walk.visited) :
    graph.Explores path [node] walk (graph.visit depth path walk node) where
  visited := by
    intro n
    have hnone : ¬ graph.Reaches walk.visited [node] n := by
      intro hreaches
      exact (reaches_singleton_iff.mp hreaches).1 hvisited
    rw [visited_visit_of_mem hvisited]
    simp [hnone]
  accepted := by
    refine ⟨(graph.closed? path node).toList, ?_, fun cycle => ?_⟩
    · rw [visit_of_mem hvisited]
      cases graph.closed? path node <;> rfl
    · simp only [Closes, isFirst_singleton_of_mem hvisited, exists_eq_left]
      simp [onward]
  first := by
    intro n hreaches
    exact absurd hvisited (reaches_singleton_iff.mp hreaches).1

theorem explores_nil : graph.Explores path [] walk walk where
  visited := by
    intro n
    simp [not_reaches_nil]
  accepted := by
    refine ⟨[], rfl, fun cycle => ?_⟩
    simp only [List.not_mem_nil, false_iff]
    rintro ⟨route, hfirst, back, hback, _⟩
    cases route with
    | nil => simp [onward] at hback
    | cons start route => simpa using hfirst.1.starts start rfl
  first := fun n hreaches => absurd hreaches not_reaches_nil

theorem Explores.cons (hchoice : graph.Explores path [choice] walk between)
    (hchoices : graph.Explores path choices between after) :
    graph.Explores path (choice :: choices) walk after where
  visited := by
    intro n
    rw [hchoices.visited n]
    exact hchoice.visits.reaches_cons_iff
  accepted := by
    obtain ⟨found, hfound, hcloses⟩ := hchoice.accepted
    obtain ⟨found', hfound', hcloses'⟩ := hchoices.accepted
    refine ⟨found ++ found', ?_, fun cycle => ?_⟩
    · rw [hfound', hfound, List.foldl_append]
    · rw [List.mem_append, hcloses cycle, hcloses' cycle]
      exact hchoice.visits.closes_cons_iff.symm
  first := by
    intro n hreaches
    have hcases := hchoice.visits.reaches_cons_iff.mpr (Or.inr hreaches)
    rcases hcases with hvisited | hlater
    · have hearly : graph.Reaches walk.visited [choice] n :=
        ((hchoice.visited n).mp hvisited).resolve_left hreaches.not_mem
      obtain ⟨route, hfirst, hlast⟩ := hchoice.first n hearly
      exact ⟨route, isFirst_cons_of_singleton hfirst, hlast⟩
    · obtain ⟨route, hfirst, hlast⟩ := hchoices.first n hlater
      exact ⟨route, hchoice.visits.isFirst_cons hfirst, hlast⟩

/-- Behind a new node its successors are explored. -/
theorem Explores.enter (hvisited : node ∉ walk.visited) (hpath : node ∉ path)
    (hexplores : graph.Explores (node :: path) (graph.successors node)
      { walk with visited := node :: walk.visited } after) :
    graph.Explores path [node] walk after where
  visited := by
    intro n
    rw [hexplores.visited n, List.mem_cons, reaches_singleton_iff]
    constructor
    · rintro ((rfl | hold) | hreaches)
      · exact Or.inr ⟨hvisited, Or.inl rfl⟩
      · exact Or.inl hold
      · exact Or.inr ⟨hvisited, Or.inr hreaches⟩
    · rintro (hold | ⟨_, rfl | hreaches⟩)
      · exact Or.inl (Or.inr hold)
      · exact Or.inl (Or.inl rfl)
      · exact Or.inr hreaches
  accepted := by
    obtain ⟨found, hfound, hcloses⟩ := hexplores.accepted
    exact ⟨found, hfound, fun cycle =>
      (hcloses cycle).trans (closes_singleton_iff hvisited hpath).symm⟩
  first := by
    intro n hreaches
    obtain ⟨_, rfl | hbelow⟩ := reaches_singleton_iff.mp hreaches
    · exact ⟨[n], (isFirst_singleton_cons_iff hvisited).mpr isFirst_nil, rfl⟩
    · obtain ⟨route, hfirst, hlast⟩ := hexplores.first n hbelow
      refine ⟨node :: route, (isFirst_singleton_cons_iff hvisited).mpr hfirst, ?_⟩
      rw [List.getLast?_cons, hlast]
      rfl

theorem explores_foldl
    (hvisit : ∀ walk node, node < graph.nodeCount → walk.Fits graph depth →
      (∀ n ∈ path, n ∈ walk.visited) →
        graph.Explores path [node] walk (graph.visit depth path walk node))
    (hgraph : graph.WellFormed) (hchoices : ∀ node ∈ choices, node < graph.nodeCount)
    (hfits : walk.Fits graph depth) (hpath : ∀ n ∈ path, n ∈ walk.visited) :
    graph.Explores path choices walk (choices.foldl (graph.visit depth path) walk) := by
  induction choices generalizing walk with
  | nil => exact explores_nil
  | cons choice choices ih =>
      have hchoice := hchoices choice List.mem_cons_self
      have hfirst := hvisit walk choice hchoice hfits hpath
      apply hfirst.cons
      apply ih
      · exact fun n hn => hchoices n (List.mem_cons_of_mem choice hn)
      · exact hfits.visit hgraph hchoice
      · exact fun n hn => (hfirst.visited n).mpr (Or.inl (hpath n hn))

theorem explores_visit (hgraph : graph.WellFormed) (hnode : node < graph.nodeCount)
    (hfits : walk.Fits graph depth) (hpath : ∀ n ∈ path, n ∈ walk.visited) :
    graph.Explores path [node] walk (graph.visit depth path walk node) := by
  induction depth generalizing path walk node with
  | zero => exact explores_of_mem (hfits.mem_of_zero hnode)
  | succ depth ih =>
      by_cases hvisited : node ∈ walk.visited
      · exact explores_of_mem hvisited
      · rw [visit_of_not_mem hvisited]
        apply Explores.enter hvisited (fun hmem => hvisited (hpath node hmem))
        apply explores_foldl
        · exact fun walk n hn hfits hpath => ih hn hfits hpath
        · exact hgraph
        · exact fun n hn => hgraph node n hn
        · exact hfits.enter hnode hvisited
        · intro n hn
          rcases List.mem_cons.mp hn with rfl | hn
          · exact List.mem_cons_self
          · exact List.mem_cons_of_mem node (hpath n hn)

end ReqConflict.InterlockGraph
