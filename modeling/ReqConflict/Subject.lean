import ReqConflict.Expr.Value
import ReqConflict.Rule.Error

/-!
# Subjects of rules

A rule is judged on two subjects, each a requirement or a condition.  Rules
address the fields of a subject by name; a condition has no events.
-/

namespace ReqConflict

inductive Subject where
  | requirement (value : Requirement)
  | condition (value : Condition)
deriving DecidableEq, Repr, Inhabited

namespace Subject

def kind : Subject → String
  | requirement _ => "requirement"
  | condition _ => "condition"

/-- The condition that a subject is, its events aside. -/
def body : Subject → Condition
  | requirement r => r.toCondition
  | condition c => c

def events? : Subject → Option (List Condition)
  | requirement r => some r.events
  | condition _ => none

def field? (subject : Subject) (name : String) : Option Value :=
  if name = "agent" then some (.entity subject.body.agent)
  else if name = "operation" then some (.operation subject.body.operation)
  else if name = "input" then some (.entities subject.body.input)
  else if name = "output" then some (.entities subject.body.output)
  else if name = "restriction" then some (.strings subject.body.restriction)
  else if name = "event" then subject.events?.map .conditions
  else none

def field (subject : Subject) (name : String) : Except RuleError Value :=
  match subject.field? name with
  | some value => .ok value
  | none => .error (.missingField name subject.kind)

def conditions (subject : Subject) (name : String) : Except RuleError (List Condition) := do
  match ← subject.field name with
  | .conditions values => return values
  | other => throw (.notIterable name other.kind)

/-- The entities in a field that a rule needs for a purpose. -/
def entities (subject : Subject) (purpose name : String) : Except RuleError (List Entity) := do
  match ← subject.field name with
  | .entities values => return values
  | other => throw (.expression (.kind purpose "entity list" other.kind))

end Subject

end ReqConflict
