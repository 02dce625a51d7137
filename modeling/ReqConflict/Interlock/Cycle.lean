import ReqConflict.Interlock.Graph

/-!
# Cycles of interlock graphs

From every node a depth-first walk looks for cycles.  A node that is reached
while it lies on the path closes a cycle, which consists of the path from that
node on.  Of the cycles found only the maximal ones are kept: one that is
contained in another is dropped, whichever is found first.

A cycle is given by its nodes in ascending order.
-/

namespace ReqConflict

namespace InterlockGraph

def isWithin (cycle other : List Nat) : Bool :=
  cycle.all other.contains

theorem isWithin_iff {cycle other : List Nat} :
    isWithin cycle other = true ↔ ∀ node ∈ cycle, node ∈ other := by
  simp [isWithin]

/-- Adds a cycle to those accepted, unless it is contained in one of them, and
drops those that it contains. -/
def merge (accepted : List (List Nat)) (candidate : List Nat) : List (List Nat) :=
  if accepted.any (isWithin candidate) then accepted
  else (accepted.filter fun cycle => !isWithin cycle candidate) ++ [candidate]

structure Walk where
  visited : List Nat
  accepted : List (List Nat)
deriving DecidableEq, Repr

/-- The cycle that a node closes, given the path to it with the latest node
first; there is none if the node is not on the path. -/
def closed? (graph : InterlockGraph) (path : List Nat) (node : Nat) : Option (List Nat) :=
  if path.contains node then
    let others := path.takeWhile (· != node)
    some ((List.range graph.nodeCount).filter fun n => n == node || others.contains n)
  else none

/-- Walks on from a node.  Each step down visits a new node, so that the number
of nodes bounds how deep the walk goes. -/
def visit (graph : InterlockGraph) : Nat → List Nat → Walk → Nat → Walk
  | depth, path, walk, node =>
      if walk.visited.contains node then
        match graph.closed? path node with
        | some cycle => { walk with accepted := merge walk.accepted cycle }
        | none => walk
      else
        match depth with
        | 0 => walk
        | depth + 1 =>
            (graph.successors node).foldl (graph.visit depth (node :: path))
              { walk with visited := node :: walk.visited }

def walkFrom (graph : InterlockGraph) (accepted : List (List Nat)) (start : Nat) :
    List (List Nat) :=
  (graph.visit graph.nodeCount [] ⟨[], accepted⟩ start).accepted

/-- The largest of the cycles that the walks find, in the order of their
discovery.  A node with an edge to itself is no cycle. -/
def cycles (graph : InterlockGraph) : List (List Nat) :=
  ((List.range graph.nodeCount).foldl graph.walkFrom []).filter fun cycle => 1 < cycle.length

end InterlockGraph

end ReqConflict
