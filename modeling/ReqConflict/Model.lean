import ReqConflict.Pool
import ReqConflict.Tuple.Grammar

/-!
# Model files

A model file holds one requirement a line.  Lines too short for a tuple are
skipped: blank lines and separators.  The requirements are numbered from one
in the order of the file, whatever ids they were written with, so that ids are
unique within a run; the groups are kept.
-/

namespace ReqConflict

/-- Why a model file cannot be read: the first line at fault, counted from
one, and what is wrong with it. -/
structure ModelError where
  line : Nat
  cause : TupleError
deriving DecidableEq, Repr

def ModelError.message (error : ModelError) : String :=
  "line " ++ toString error.line ++ ": " ++ error.cause.message

namespace Model

/-- A line of this length, trailing blanks aside, cannot hold a tuple. -/
def longestSkipped : Nat := 10

def isTupleLine (line : List Char) : Bool :=
  longestSkipped < line.length

/-- The id of the next requirement after `count` others. -/
def nextId (count : Nat) : Except TupleError UInt32 :=
  if count + 1 < UInt32.size then .ok (UInt32.ofNat (count + 1)) else .error (.tooMany count)

/-- The requirement on a line, numbered after `count` others. -/
def readLine (count : Nat) (line : List Char) : Except TupleError Requirement := do
  let text := String.ofList line
  let (_, group) ← Requirement.readHeader text
  let id ← nextId count
  Requirement.read text id group

/-- Reads the lines from number `line` on, after `count` requirements, and
pools the entities of each requirement as soon as it is read. -/
def readLines (line count : Nat) :
    List (List Char) → Pool → Except ModelError (List Requirement) × Pool
  | [], pool => (.ok [], pool)
  | text :: others, pool =>
      let text := Text.trimEnd text
      if isTupleLine text then
        match readLine count text with
        | .error cause => (.error ⟨line, cause⟩, pool)
        | .ok requirement =>
            let (_, pool) := Pool.canonicalRequirement requirement pool
            let (rest, pool) := readLines (line + 1) (count + 1) others pool
            (rest.map (requirement :: ·), pool)
      else readLines (line + 1) count others pool

def read (text : String) (pool : Pool) : Except ModelError (List Requirement) × Pool :=
  readLines 1 0 (Text.lines text.toList) pool

/-- Writes requirements one a line. -/
def render (requirements : List Requirement) : String :=
  String.ofList (requirements.flatMap fun requirement => Tuple.requirement requirement ++ ['\n'])

end Model

end ReqConflict
