import ReqConflict.Conflict
import ReqConflict.Interlock.Cycle
import ReqConflict.RuleSet

/-!
# Detecting conflicts

Detection has two phases.  The scan judges every pair of requirements that are
no siblings: it finds the direct conflicts, and the edges of two interlock
graphs.  Then every maximal cycle of a graph is a conflict between the
requirements on it.  The first error of a rule ends the detection.
-/

namespace ReqConflict

abbrev Placed := Requirement × Nat

/-- What a scan finds, requirements being given by their positions. -/
structure Scan where
  conflicts : List (Conflict Nat)
  operationEvent : InterlockGraph
  inputOutput : InterlockGraph
deriving DecidableEq, Repr

namespace Scan

def start (nodes : Nat) : Scan :=
  ⟨[], .edgeless nodes, .edgeless nodes⟩

def report (scan : Scan) (kind : ConflictKind) (x y : Placed) : Scan :=
  { scan with conflicts := scan.conflicts ++ [⟨kind, [x.2, y.2]⟩] }

/-- The pairs of a list in order, siblings left out. -/
def pairs : List Placed → List (Placed × Placed)
  | [] => []
  | x :: others =>
      (others.filter fun y => !x.1.isSibling y.1).map (x, ·) ++ pairs others

end Scan

namespace RuleSet

def holds (rules : RuleSet) (kind : ConflictKind) (x y : Placed) : Except RuleError Bool :=
  rules.judge kind.ruleName (.requirement x.1) (.requirement y.1)

def scanSymmetric (rules : RuleSet) (x y : Placed) (scan : Scan) (kind : ConflictKind) :
    Except RuleError Scan := do
  return if ← rules.holds kind x y then scan.report kind x y else scan

def scanDirectional (rules : RuleSet) (x y : Placed) (scan : Scan) (kind : ConflictKind) :
    Except RuleError Scan := do
  if ← rules.holds kind x y then return scan.report kind x y
  return if ← rules.holds kind y x then scan.report kind y x else scan

def scanEdges (rules : RuleSet) (kind : ConflictKind) (x y : Placed) (graph : InterlockGraph) :
    Except RuleError InterlockGraph := do
  let graph := if ← rules.holds kind x y then graph.addEdge x.2 y.2 else graph
  return if ← rules.holds kind y x then graph.addEdge y.2 x.2 else graph

def scanPair (rules : RuleSet) (scan : Scan) (pair : Placed × Placed) : Except RuleError Scan := do
  let (x, y) := pair
  let scan ← ConflictKind.symmetric.foldlM (rules.scanSymmetric x y) scan
  let scan ← ConflictKind.directional.foldlM (rules.scanDirectional x y) scan
  let operationEvent ← rules.scanEdges .operationEventInterlock x y scan.operationEvent
  let inputOutput ← rules.scanEdges .inputOutputInterlock x y scan.inputOutput
  return { scan with operationEvent := operationEvent, inputOutput := inputOutput }

def scan (rules : RuleSet) (requirements : List Requirement) : Except RuleError Scan :=
  (Scan.pairs requirements.zipIdx).foldlM rules.scanPair (Scan.start requirements.length)

end RuleSet

namespace Scan

/-- The conflicts of a scan and those made of the cycles of its graphs. -/
def finish (scan : Scan) : List (Conflict Nat) :=
  scan.conflicts
    ++ scan.operationEvent.cycles.map (Conflict.mk .operationEventInterlock)
    ++ scan.inputOutput.cycles.map (Conflict.mk .inputOutputInterlock)

end Scan

def Conflict.ofPositions (requirements : List Requirement) (conflict : Conflict Nat) :
    Conflict Requirement :=
  conflict.map fun position => requirements.getD position default

/-- All conflicts between requirements, given by their positions. -/
def RuleSet.detect (rules : RuleSet) (requirements : List Requirement) :
    Except RuleError (List (Conflict Nat)) := do
  return (← rules.scan requirements).finish

end ReqConflict
