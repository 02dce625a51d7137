import ReqConflict.Text.Parser
import ReqConflict.Tuple.Printer

/-!
# The grammar of tuple text

The grammar reads what the printer writes, and a little more: flags and
modifiers in front of a base, any escape, leading zeros.  Branches are tried in
order, and no branch is final, so text that looks like a flag, a marker or an
owner is read as one wherever it may stand.
-/

namespace ReqConflict

inductive TupleError where
  | malformed (input : List Char) (trace : Text.Trace)
  | tooMany (count : Nat)
deriving DecidableEq, Repr

def TupleError.message : TupleError → String
  | .malformed input trace => "malformed tuple:\n" ++ trace.render input
  | .tooMany count =>
      "too many requirements: " ++ toString count ++ " already read, ids are 32-bit"

namespace Tuple.Grammar

open Text Text.Parser

/-- A value up to the next reserved character; it may be empty. -/
def value : Parser (List Char) :=
  fun input =>
    match Escape.decode input with
    | some (value, rest) => .done value rest
    | none => .done [] input

def nonemptyValue : Parser (List Char) :=
  satisfying (fun text => !text.isEmpty) value

def field {α : Type} (content : Parser α) : Parser α :=
  between (char '(') content (char ')')

def nextField : Parser Unit :=
  word fieldSeparator

def marker {α : Type} (text : String) (meaning : α) : Parser α := do
  word text
  pure meaning

def flagged (text : String) : Parser Bool := do
  let flag ← optional (word text)
  pure flag.isSome

def decimal (digits : List Char) : Nat :=
  digits.foldl (fun n digit => n * 10 + (digit.toNat - '0'.toNat)) 0

/-- A number of at most 32 bits. -/
def number : Parser UInt32 :=
  converted
    (fun digits =>
      if decimal digits < UInt32.size then some (UInt32.ofNat (decimal digits)) else none)
    (span1 "Digit" Char.isDigit)

/-- An entity whose chain of owners has at most the given length. -/
def entityUpTo : Nat → Parser Entity
  | 0 => reject (.part "entity base")
  | owners + 1 => do
      let isAll ← flagged allFlag
      let modifiers ← many (between (char '[') nonemptyValue (char ']'))
      let base ← named "entity base" (choice [marker systemMarker [], nonemptyValue])
      let whole ← optional (between (word ownerOpening) (entityUpTo owners) (char ']'))
      let noun : Noun :=
        { base := String.ofList base
          modifiers := .ofList (modifiers.map String.ofList)
          isAll := isAll }
      pure (Entity.ofNoun noun whole)

/-- An entity.  Every owner takes a character, so no chain of owners is longer
than the input. -/
def entity : Parser Entity :=
  fun input => entityUpTo (input.length + 1) input

def listOf {α : Type} (emptyMarker : String) (item : Parser α) : Parser (List α) :=
  choice [marker emptyMarker [], separated1 (word itemSeparator) item]

def operation : Parser Operation := do
  let able ← flagged ableFlag
  let negated ← flagged notFlag
  let predicate ← value
  pure { predicate := String.ofList predicate, negated := negated, able := able }

def restriction : Parser String := do
  let text ← nonemptyValue
  pure (String.ofList text)

/-- The five fields that conditions and requirements share. -/
def body : Parser Condition := do
  let agent ← named "agent" (field entity)
  nextField
  let action ← named "operation" (field operation)
  nextField
  let input ← named "input" (field (listOf voidMarker entity))
  nextField
  let output ← named "output" (field (listOf voidMarker entity))
  nextField
  let restrictions ← named "restriction" (field (listOf voidMarker restriction))
  pure
    { agent := agent, operation := action, input := input, output := output,
      restriction := restrictions }

def condition : Parser Condition :=
  named "condition" (between (char '{') body (char '}'))

/-- The id and the group in front of a requirement. -/
def header : Parser (UInt32 × UInt32) := do
  let id ← named "reqid" (field number)
  nextField
  let group ← named "groupid" (field number)
  pure (id, group)

def requirement : Parser Requirement := do
  let (id, group) ← header
  nextField
  let events ← named "event" (field (listOf alwaysMarker condition))
  nextField
  let action ← body
  pure { action with id := id, group := group, events := events }

/-- Reads a whole text, blanks around it aside. -/
def readWhole {α : Type} (part : Parser α) (text : String) : Except TupleError α :=
  let input := trim text.toList
  (whole part input).toExcept (.malformed input)

end Tuple.Grammar

open ReqConflict.Tuple

def Entity.read (text : String) : Except TupleError Entity :=
  Grammar.readWhole Grammar.entity text

def Condition.read (text : String) : Except TupleError Condition :=
  Grammar.readWhole Grammar.condition text

/-- Reads a requirement.  The ids in the text only have to be numbers; the
requirement gets the ids given. -/
def Requirement.read (text : String) (id group : UInt32) : Except TupleError Requirement := do
  let requirement ← Grammar.readWhole Grammar.requirement text
  pure { requirement with id := id, group := group }

/-- Reads the id and the group at the beginning of a text. -/
def Requirement.readHeader (text : String) : Except TupleError (UInt32 × UInt32) :=
  let input := Text.trimStart text.toList
  (Grammar.header input).toExcept (.malformed input)

end ReqConflict
