import ReqConflict.Conflict
import ReqConflict.Report.Json
import ReqConflict.Tuple.Printer

/-!
# Reports

Conflicts are reported as text or as JSON.  The text has a block for each
conflict: a line with its kind, a line for each requirement, and an empty line.
-/

namespace ReqConflict

inductive ReportFormat where
  | text
  | json
deriving DecidableEq, Repr, Inhabited

namespace ReportFormat

/-- A name that is no report format, in lower case. -/
structure Unknown where
  name : String
deriving DecidableEq, Repr

def Unknown.message (unknown : Unknown) : String :=
  "Unknown report format '" ++ unknown.name ++ "', expected 'text' or 'json'"

def ofName (name : String) : Except Unknown ReportFormat :=
  let lower := String.ofList (name.toList.map Char.toLower)
  if lower = "text" then .ok text
  else if lower = "json" then .ok json
  else .error ⟨lower⟩

end ReportFormat

namespace Report

def block (conflict : Conflict Requirement) : List Char :=
  conflict.kind.ruleName.toList ++ '\n' ::
    conflict.members.flatMap (fun requirement => Tuple.requirement requirement ++ ['\n']) ++ ['\n']

def text (conflicts : List (Conflict Requirement)) : String :=
  String.ofList (conflicts.flatMap block)

def ofStrings (texts : List String) : Json :=
  .array (texts.map .string)

def ofNoun (noun : Noun) (whole : Json) : Json :=
  .object [("base", .string noun.base), ("modifier", ofStrings noun.modifiers.toList),
    ("is_all", .bool noun.isAll), ("entirety", whole)]

def ofEntity : Entity → Json
  | .own noun => ofNoun noun .null
  | .part noun whole => ofNoun noun (ofEntity whole)

def ofOperation (operation : Operation) : Json :=
  .object [("predicate", .string operation.predicate), ("not", .bool operation.negated),
    ("able", .bool operation.able)]

/-- The fields that a requirement and a condition have in common. -/
def bodyFields (condition : Condition) : List (String × Json) :=
  [("agent", ofEntity condition.agent), ("operation", ofOperation condition.operation),
    ("input", .array (condition.input.map ofEntity)),
    ("output", .array (condition.output.map ofEntity)),
    ("restriction", ofStrings condition.restriction)]

def ofCondition (condition : Condition) : Json :=
  .object (bodyFields condition)

def ofRequirement (requirement : Requirement) : Json :=
  .object ([("reqid", .number requirement.id.toNat), ("groupid", .number requirement.group.toNat),
    ("event", .array (requirement.events.map ofCondition))]
    ++ bodyFields requirement.toCondition)

def ofConflict (conflict : Conflict Requirement) : Json :=
  .object [("kind", .string conflict.kind.ruleName),
    ("requirements", .array (conflict.members.map ofRequirement))]

def json (conflicts : List (Conflict Requirement)) : String :=
  (Json.array (conflicts.map ofConflict)).toText

def write (format : ReportFormat) (conflicts : List (Conflict Requirement)) : String :=
  match format with
  | .text => text conflicts
  | .json => json conflicts

end Report

end ReqConflict
