import ReqConflict.Table
import ReqConflict.Yaml.Value

/-!
# Rules documents

A rules document is a YAML mapping with four parts: the types of the fields of
a tuple, the types that each relation is permitted for, the comparison of each
relation at each type, and the rules in the order of their definition.  A part
that is not given is empty, and other parts are ignored.
-/

namespace ReqConflict

open Yaml (Fault Node Document)

structure RulesDocument where
  fieldTypes : Table String
  allowedTypes : Table (List String)
  operators : Table (Table String)
  rules : List (Yaml.Value × Yaml.Value)
deriving Inhabited

namespace RulesDocument

def ruleNames (document : RulesDocument) : List String :=
  document.rules.filterMap fun rule => rule.1.string?

/-- The value of the only entry under a key, if there is one. -/
def part? (key : String) (entries : List (String × Node)) : Except Fault (Option Node) :=
  match entries.filter fun entry => entry.1 == key with
  | [] => .ok none
  | [entry] => .ok (some entry.2)
  | _ => .error .repeatedKey

def readTable {α : Type} (document : Document) (read : Node → Document.Reading α)
    (node : Node) : Document.Reading (Table α) := do
  let entries ← document.entries node
  let entries ← entries.mapM fun (key, value) =>
    return (← document.text key, ← read value)
  return Table.ofList entries

/-- The depth of collections that is left within the rules. -/
def rulesDepth : Nat :=
  Document.greatestDepth - 2

/-- The rules in their order.  No rule is defined twice. -/
def readRules (document : Document) (node : Node) :
    Document.Reading (List (Yaml.Value × Yaml.Value)) := do
  let entries ← document.entries node
  let rules ← entries.mapM fun (key, value) =>
    return (← document.value rulesDepth key, ← document.value rulesDepth value)
  if Yaml.Value.hasRepeatedKey rules then throw .repeatedKey
  return rules

/-- A part that is empty if it is not given. -/
def readPart {α : Type} (absent : α) (read : Node → Document.Reading α)
    (node : Option Node) : Document.Reading α :=
  match node with
  | none => return absent
  | some node => read node

def ofDocument (document : Document) : Document.Reading RulesDocument := do
  let entries ←
    match document.content with
    | none => pure []
    | some node => document.entries node
  let entries ← entries.mapM fun (key, value) => return (← document.text key, value)
  let fieldTypes ← part? "field types" entries
  let allowedTypes ← part? "allowed types" entries
  let operators ← part? "operators" entries
  let rules ← part? "rules" entries
  let texts := fun node => do (← document.items node).mapM document.text
  let relation := readTable document document.text
  return {
    fieldTypes := ← readPart .empty (readTable document document.text) fieldTypes
    allowedTypes := ← readPart .empty (readTable document texts) allowedTypes
    operators := ← readPart .empty (readTable document relation) operators
    rules := ← readPart [] (readRules document) rules }

def read (text : String) : Except Fault RulesDocument := do
  let document ← Document.ofText text
  let (rules, _) ← (ofDocument document).run 0
  return rules

end RulesDocument

end ReqConflict
