import ReqConflict.Yaml.Token

/-!
# YAML nodes

The tokens of a document describe one tree of nodes.  Aliases stay in the tree
as leaves: they name the slot of an anchor, and the same slot may be anchored
again further down.

The collections of a document are read by functions that call each other, each
with a smaller bound on the number of calls.
-/

namespace ReqConflict.Yaml

structure Properties where
  anchor : Option Nat
  tag : Option String
deriving DecidableEq, Repr

inductive Node where
  | alias (slot : Nat)
  | scalar (properties : Properties) (isPlain : Bool) (text : String)
  | sequence (properties : Properties) (items : List Node)
  | mapping (properties : Properties) (entries : List (Node × Node))
deriving Repr, Inhabited

namespace Node

/-- What stands where a node is missing. -/
def empty : Node :=
  scalar ⟨none, none⟩ true ""

/-- The block collections that a node may be: none in a flow collection, and a
sequence without indentation of its own only in a mapping. -/
inductive Place where
  | inFlow
  | inSequence
  | inMapping
deriving DecidableEq, Repr

/-- The properties in front of a node: an anchor and a tag in either order. -/
def properties : List Token → Properties × List Token
  | .anchor slot :: .tag name :: rest => (⟨some slot, some name⟩, rest)
  | .tag name :: .anchor slot :: rest => (⟨some slot, some name⟩, rest)
  | .anchor slot :: rest => (⟨some slot, none⟩, rest)
  | .tag name :: rest => (⟨none, some name⟩, rest)
  | rest => (⟨none, none⟩, rest)

/-- The tag of a single exclamation mark leaves a scalar untagged. -/
def scalarProperties (properties : Properties) : Properties :=
  if properties.tag = some "!" then { properties with tag := none } else properties

def misplaced {α : Type} : Except Fault α :=
  .error .arrangement

def leaf (properties : Properties) (rest : List Token) : Except Fault (Node × List Token) :=
  if properties = ⟨none, none⟩ then misplaced else .ok (scalar properties true "", rest)

/-- Tokens in front of which an item of an indented sequence is missing. -/
def endsItem : Token → Bool
  | .entry | .blockEnd => true
  | _ => false

/-- Tokens in front of which an item of a sequence without indentation of its
own is missing. -/
def endsPlainItem : Token → Bool
  | .entry | .key | .value | .blockEnd => true
  | _ => false

/-- Tokens in front of which a key or a value of a block mapping is missing. -/
def endsEntryPart : Token → Bool
  | .key | .value | .blockEnd => true
  | _ => false

/-- Tokens in front of which a key or a value of a flow collection is missing. -/
def endsFlowPart : Token → Bool
  | .value | .comma | .flowSequenceEnd | .flowMappingEnd => true
  | _ => false

/-- The tokens behind the comma before an item, which the first item lacks. -/
def afterComma (isFirst : Bool) (tokens : List Token) : Except Fault (List Token) :=
  match isFirst, tokens with
  | true, _ => .ok tokens
  | false, .comma :: rest => .ok rest
  | false, _ => .error .arrangement

mutual

def read (place : Place) : Nat → List Token → Except Fault (Node × List Token)
  | 0, _ => misplaced
  | _ + 1, .alias slot :: rest => .ok (.alias slot, rest)
  | bound + 1, tokens =>
      let (properties, rest) := properties tokens
      match rest with
      | .scalar isPlain text :: rest =>
          .ok (.scalar (scalarProperties properties) isPlain text, rest)
      | .flowSequence :: rest => do
          let (items, rest) ← flowItems true bound rest
          return (.sequence properties items, rest)
      | .flowMapping :: rest => do
          let (entries, rest) ← flowEntries true bound rest
          return (.mapping properties entries, rest)
      | .blockSequence :: rest' =>
          if place = .inFlow then leaf properties rest
          else do
            let (items, rest) ← blockItems bound rest'
            return (.sequence properties items, rest)
      | .blockMapping :: rest' =>
          if place = .inFlow then leaf properties rest
          else do
            let (entries, rest) ← blockEntries bound rest'
            return (.mapping properties entries, rest)
      | .entry :: _ =>
          if place = .inMapping then do
            let (items, rest) ← plainItems bound rest
            return (.sequence properties items, rest)
          else leaf properties rest
      | _ => leaf properties rest

/-- A node that is missing in front of certain tokens. -/
def readUnless (isMissing : Token → Bool) (place : Place) :
    Nat → List Token → Except Fault (Node × List Token)
  | 0, _ => misplaced
  | _ + 1, [] => misplaced
  | bound + 1, token :: rest =>
      if isMissing token then .ok (empty, token :: rest) else read place bound (token :: rest)

def blockItems : Nat → List Token → Except Fault (List Node × List Token)
  | 0, _ => misplaced
  | bound + 1, .entry :: rest => do
      let (item, rest) ← readUnless endsItem .inSequence bound rest
      let (items, rest) ← blockItems bound rest
      return (item :: items, rest)
  | _ + 1, .blockEnd :: rest => .ok ([], rest)
  | _ + 1, _ => misplaced

/-- The items of a block sequence without indentation of its own. -/
def plainItems : Nat → List Token → Except Fault (List Node × List Token)
  | 0, _ => misplaced
  | bound + 1, .entry :: rest => do
      let (item, rest) ← readUnless endsPlainItem .inSequence bound rest
      let (items, rest) ← plainItems bound rest
      return (item :: items, rest)
  | _ + 1, rest => .ok ([], rest)

def blockEntries : Nat → List Token → Except Fault (List (Node × Node) × List Token)
  | 0, _ => misplaced
  | bound + 1, .key :: rest => do
      let (key, rest) ← readUnless endsEntryPart .inMapping bound rest
      let (value, rest) ← valueOf .inMapping bound rest
      let (entries, rest) ← blockEntries bound rest
      return ((key, value) :: entries, rest)
  | _ + 1, .blockEnd :: rest => .ok ([], rest)
  | _ + 1, _ => misplaced

/-- The value behind a key, which may be missing with its colon or without. -/
def valueOf (place : Place) : Nat → List Token → Except Fault (Node × List Token)
  | 0, _ => misplaced
  | bound + 1, .value :: rest =>
      readUnless (if place = .inFlow then endsFlowPart else endsEntryPart) place bound rest
  | _ + 1, rest => .ok (empty, rest)

/-- The items of a flow sequence; `isFirst` tells that none has been read. -/
def flowItems (isFirst : Bool) : Nat → List Token → Except Fault (List Node × List Token)
  | 0, _ => misplaced
  | _ + 1, .flowSequenceEnd :: rest => .ok ([], rest)
  | bound + 1, tokens => do
      let tokens ← afterComma isFirst tokens
      match tokens with
      | .flowSequenceEnd :: rest => return ([], rest)
      | .key :: rest => do
          let (entry, rest) ← singleEntry bound rest
          let (items, rest) ← flowItems false bound rest
          return (.mapping ⟨none, none⟩ [entry] :: items, rest)
      | _ => do
          let (item, rest) ← read .inFlow bound tokens
          let (items, rest) ← flowItems false bound rest
          return (item :: items, rest)

/-- The only entry of a mapping without braces in a flow sequence.  Where its
key is missing one token is passed over. -/
def singleEntry : Nat → List Token → Except Fault ((Node × Node) × List Token)
  | 0, _ => misplaced
  | _ + 1, [] => misplaced
  | bound + 1, token :: rest =>
      if endsFlowPart token && token != .flowMappingEnd then do
        let (value, rest) ← valueOf .inFlow bound rest
        return ((empty, value), rest)
      else do
        let (key, rest) ← read .inFlow bound (token :: rest)
        let (value, rest) ← valueOf .inFlow bound rest
        return ((key, value), rest)

/-- The entries of a flow mapping; `isFirst` tells that none has been read. -/
def flowEntries (isFirst : Bool) :
    Nat → List Token → Except Fault (List (Node × Node) × List Token)
  | 0, _ => misplaced
  | _ + 1, .flowMappingEnd :: rest => .ok ([], rest)
  | bound + 1, tokens => do
      let tokens ← afterComma isFirst tokens
      match tokens with
      | .flowMappingEnd :: rest => return ([], rest)
      | .key :: rest => do
          let (key, rest) ← readUnless endsFlowPart .inFlow bound rest
          let (value, rest) ← valueOf .inFlow bound rest
          let (entries, rest) ← flowEntries false bound rest
          return ((key, value) :: entries, rest)
      | _ => do
          let (key, rest) ← read .inFlow bound tokens
          let (entries, rest) ← flowEntries false bound rest
          return ((key, empty) :: entries, rest)

end

/-- The content of a document, which may be missing. -/
def content (tokens : List Token) : Except Fault (Option Node × List Token) :=
  match tokens with
  | [] | .documentStart :: _ | .documentEnd :: _ | .directive :: _ => .ok (none, tokens)
  | _ => do
      let (node, rest) ← read .inSequence (3 * tokens.length + 3) tokens
      return (some node, rest)

/-- Behind the content of a document only marks of its end are left. -/
def isOver (tokens : List Token) : Bool :=
  tokens.all (· == .documentEnd)

/-- The content of the only document of a text.  Behind directives there is
the mark of a start, and no text starts with the mark of an end. -/
def ofTokens (tokens : List Token) : Except Fault (Option Node) := do
  let (node, rest) ←
    match tokens with
    | .documentEnd :: _ => misplaced
    | .directive :: _ | .documentStart :: _ =>
        match tokens.dropWhile (· == .directive) with
        | .documentStart :: rest => content rest
        | _ => misplaced
    | _ => content tokens
  if isOver rest then return node else misplaced

end Node

end ReqConflict.Yaml
