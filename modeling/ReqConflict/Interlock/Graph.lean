/-!
# Interlock graphs

A directed graph over the positions of requirements.  There is an edge from one
position to another where an interlock rule holds for the two requirements.
The successors of a node keep the order in which their edges were added.
-/

namespace ReqConflict

structure InterlockGraph where
  adjacency : List (List Nat)
deriving DecidableEq, Repr, Inhabited

namespace InterlockGraph

def edgeless (nodes : Nat) : InterlockGraph :=
  ⟨List.replicate nodes []⟩

def nodeCount (graph : InterlockGraph) : Nat :=
  graph.adjacency.length

/-- The targets of the edges from a node; an unknown node has none. -/
def successors (graph : InterlockGraph) (node : Nat) : List Nat :=
  graph.adjacency.getD node []

def hasEdge (graph : InterlockGraph) (source target : Nat) : Bool :=
  (graph.successors source).contains target

def addEdge (graph : InterlockGraph) (source target : Nat) : InterlockGraph :=
  ⟨graph.adjacency.modify source (· ++ [target])⟩

@[simp] theorem nodeCount_edgeless (nodes : Nat) : (edgeless nodes).nodeCount = nodes :=
  List.length_replicate

@[simp] theorem nodeCount_addEdge (graph : InterlockGraph) (source target : Nat) :
    (graph.addEdge source target).nodeCount = graph.nodeCount :=
  List.length_modify ..

@[simp] theorem successors_edgeless (nodes node : Nat) : (edgeless nodes).successors node = [] := by
  simp [edgeless, successors, List.getD, List.getElem?_replicate]
  split <;> rfl

theorem successors_addEdge (graph : InterlockGraph) {source : Nat} (target node : Nat)
    (h : source < graph.nodeCount) :
    (graph.addEdge source target).successors node =
      if node = source then graph.successors node ++ [target] else graph.successors node := by
  have h' : source < graph.adjacency.length := h
  by_cases hnode : node = source
  · subst hnode
    simp [addEdge, successors, List.getD, List.getElem?_eq_getElem h']
  · have : source ≠ node := fun e => hnode e.symm
    simp [addEdge, successors, List.getD, hnode, this]

def edgeCount (graph : InterlockGraph) : Nat :=
  graph.adjacency.foldl (fun count targets => count + targets.length) 0

def edges (graph : InterlockGraph) : List (Nat × Nat) :=
  graph.adjacency.zipIdx.flatMap fun (targets, source) => targets.map (source, ·)

end InterlockGraph

end ReqConflict
