import ReqConflict.Yaml.Node
import ReqConflict.Yaml.Number

/-!
# YAML values

The value of a node: plain scalars are resolved to nulls, truth values and
numbers, standard tags force a kind, and a local tag stays with the value.
Aliases are replaced by what they stand for.

Two limits keep the replacement finite: collections nest at most 128 deep, and
the aliases followed are at most a hundred for every part of the document.
-/

namespace ReqConflict.Yaml

inductive Value where
  | null
  | bool (value : Bool)
  | number (value : Number)
  | string (text : String)
  | sequence (items : List Value)
  | mapping (entries : List (Value × Value))
  | tagged (tag : String) (value : Value)
deriving Repr, Inhabited

namespace Value

mutual

/-- Equality of values.  The order of a mapping does not matter. -/
def same : Value → Value → Bool
  | null, null => true
  | bool a, bool b => a == b
  | number a, number b => a.same b
  | string a, string b => a == b
  | sequence a, sequence b => sameItems a b
  | mapping a, mapping b => a.length == b.length && sameEntries a b
  | tagged tag a, tagged tag' b => tag == tag' && same a b
  | _, _ => false

def sameItems : List Value → List Value → Bool
  | [], [] => true
  | a :: items, b :: others => same a b && sameItems items others
  | _, _ => false

/-- Every entry of the first mapping is one of the second. -/
def sameEntries : List (Value × Value) → List (Value × Value) → Bool
  | [], _ => true
  | (key, value) :: entries, others =>
      others.any (fun other => same key other.1 && same value other.2)
        && sameEntries entries others

end

/-- The text of a string, a tag aside. -/
def string? : Value → Option String
  | string text => some text
  | tagged _ value => string? value
  | _ => none

def sequence? : Value → Option (List Value)
  | sequence items => some items
  | tagged _ value => sequence? value
  | _ => none

def mapping? : Value → Option (List (Value × Value))
  | mapping entries => some entries
  | tagged _ value => mapping? value
  | _ => none

/-- The value of an untagged string key. -/
def find? (key : String) (entries : List (Value × Value)) : Option Value :=
  (entries.find? fun entry => same entry.1 (string key)).map (·.2)

/-- Whether a key occurs twice. -/
def hasRepeatedKey : List (Value × Value) → Bool
  | [] => false
  | (key, _) :: entries => entries.any (fun other => same key other.1) || hasRepeatedKey entries

def nullOf (text : String) : Option Value :=
  if ["null", "Null", "NULL", "~"].contains text then some null else none

def boolOf (text : String) : Option Value :=
  if ["true", "True", "TRUE"].contains text then some (bool true)
  else if ["false", "False", "FALSE"].contains text then some (bool false)
  else none

def floatOf (text : String) : Option Value :=
  (Number.float? text.toList).map number

/-- An integer of 64 bits.  One of up to 128 bits is refused, and a longer one
is not read as an integer. -/
def integerOf (text : String) : Except Fault (Option Value) :=
  match Number.integer? text.toList with
  | none => .ok none
  | some n =>
      if -Int.pow 2 63 ≤ n ∧ n < Int.pow 2 64 then .ok (some (number (.integer n)))
      else if -Int.pow 2 127 ≤ n ∧ n < Int.pow 2 128 then .error (.number text)
      else .ok none

def ofPlain (text : String) : Except Fault Value := do
  if text.isEmpty then return null
  if let some value := (nullOf text).orElse fun _ => boolOf text then return value
  if let some value ← integerOf text then return value
  if Number.hasLeadingZero text.toList then return string text
  return (floatOf text).getD (string text)

/-- What a local tag is shown as: its name behind one exclamation mark. -/
def localTag? (tag : String) : Option String :=
  match tag.toList with
  | '!' :: '!' :: c :: name => some (String.ofList ('!' :: c :: name))
  | ['!'] => some "!!"
  | '!' :: name => some (String.ofList ('!' :: name))
  | _ => none

def orWanted (what : String) : Option Value → Except Fault Value
  | some value => .ok value
  | none => .error (.wanted what)

/-- The value of a scalar.  A tag that is no local one makes a string of it,
unless it names a kind of scalars. -/
def ofScalar (tag : Option String) (isPlain : Bool) (text : String) : Except Fault Value :=
  let untagged := if isPlain then ofPlain text else .ok (string text)
  match tag with
  | none => untagged
  | some "tag:yaml.org,2002:bool" => orWanted "a boolean" (boolOf text)
  | some "tag:yaml.org,2002:int" => do orWanted "an integer" (← integerOf text)
  | some "tag:yaml.org,2002:float" => orWanted "a number" (floatOf text)
  | some "tag:yaml.org,2002:null" => orWanted "null" (nullOf text)
  | some tag =>
      match localTag? tag with
      | some name => (untagged).map (tagged name)
      | none => .ok (string text)

/-- Keeps a local tag of a collection. -/
def withTag (tag : Option String) (value : Value) : Value :=
  match tag.bind localTag? with
  | some name => tagged name value
  | none => value

end Value

/-- A document with what its aliases may refer to. -/
structure Document where
  content : Option Node
  /-- The anchored nodes by slot, in the order in which they start. -/
  anchors : List (Nat × Node)
  /-- The number of aliases, scalars, and beginnings and ends of collections. -/
  size : Nat
deriving Repr

namespace Document

def ownAnchor (properties : Properties) (node : Node) : List (Nat × Node) :=
  match properties.anchor with
  | some slot => [(slot, node)]
  | none => []

mutual

def anchorsOf : Node → List (Nat × Node)
  | .alias _ => []
  | .scalar properties isPlain text => ownAnchor properties (.scalar properties isPlain text)
  | .sequence properties items =>
      ownAnchor properties (.sequence properties items) ++ anchorsOfItems items
  | .mapping properties entries =>
      ownAnchor properties (.mapping properties entries) ++ anchorsOfEntries entries

def anchorsOfItems : List Node → List (Nat × Node)
  | [] => []
  | item :: items => anchorsOf item ++ anchorsOfItems items

def anchorsOfEntries : List (Node × Node) → List (Nat × Node)
  | [] => []
  | (key, value) :: entries => anchorsOf key ++ anchorsOf value ++ anchorsOfEntries entries

end

mutual

def sizeOfNode : Node → Nat
  | .alias _ => 1
  | .scalar .. => 1
  | .sequence _ items => 2 + sizeOfItems items
  | .mapping _ entries => 2 + sizeOfEntries entries

def sizeOfItems : List Node → Nat
  | [] => 0
  | item :: items => sizeOfNode item + sizeOfItems items

def sizeOfEntries : List (Node × Node) → Nat
  | [] => 0
  | (key, value) :: entries => sizeOfNode key + sizeOfNode value + sizeOfEntries entries

end

def ofText (text : String) : Except Fault Document := do
  let content ← Node.ofTokens (← tokens text.toList)
  return { content := content
           anchors := (content.map anchorsOf).getD []
           size := (content.map sizeOfNode).getD 1 }

/-- A reading of a document, which counts the aliases it follows. -/
abbrev Reading := StateT Nat (Except Fault)

def greatestDepth : Nat := 128

/-- The node that a node stands for.  The anchor of a slot that starts last in
the document counts. -/
def follow (document : Document) : Node → Reading Node
  | .alias slot => do
      let count ← get
      if document.size * 100 < count + 1 then throw .tooManyAliases
      set (count + 1)
      match document.anchors.reverse.find? fun entry => entry.1 == slot with
      | some (_, node) => return node
      | none => throw .arrangement
  | node => return node

/-- The value of a node in which collections nest at most `depth` deep. -/
def value (document : Document) : Nat → Node → Reading Value
  | 0, node => do
      match ← document.follow node with
      | .scalar properties isPlain text => Value.ofScalar properties.tag isPlain text
      | _ => throw .tooDeep
  | depth + 1, node => do
      match ← document.follow node with
      | .alias _ => throw .arrangement
      | .scalar properties isPlain text => Value.ofScalar properties.tag isPlain text
      | .sequence properties items =>
          let values ← items.mapM (document.value depth)
          return (Value.sequence values).withTag properties.tag
      | .mapping properties entries =>
          let values ← entries.mapM fun (key, value) =>
            return (← document.value depth key, ← document.value depth value)
          if Value.hasRepeatedKey values then throw .repeatedKey
          return (Value.mapping values).withTag properties.tag

/-- The text of a scalar, whatever its style and its tag. -/
def text (document : Document) (node : Node) : Reading String := do
  match ← document.follow node with
  | .scalar _ _ text => return text
  | _ => throw (.wanted "a string")

/-- The items of a sequence, which may be left empty. -/
def items (document : Document) (node : Node) : Reading (List Node) := do
  match ← document.follow node with
  | .sequence _ items => return items
  | .scalar _ true "" => return []
  | _ => throw (.wanted "a list")

/-- The entries of a mapping, which may be left empty. -/
def entries (document : Document) (node : Node) : Reading (List (Node × Node)) := do
  match ← document.follow node with
  | .mapping _ entries => return entries
  | .scalar _ true "" => return []
  | _ => throw (.wanted "a mapping")

end Document

end ReqConflict.Yaml
