import ReqConflict.Requirement
import ReqConflict.Text.Escape

/-!
# Tuple text

Requirements are kept as text, one tuple for each:

    (1) , (0) , (*always*) , (*system*) , (NOT lock) , (door) , (*void*) , (at night)

The fields are the id, the group, the events, the agent, the operation, what
it takes, what it yields, and the restrictions.  A condition is written as its
five fields in braces.  Three markers stand for what has no text of its own:
the system as an actor, an empty list, and an empty list of events.
-/

namespace ReqConflict

namespace Tuple

def systemMarker : String := "*system*"

def voidMarker : String := "*void*"

def alwaysMarker : String := "*always*"

def allFlag : String := "ALL "

def ableFlag : String := "ABLE "

def notFlag : String := "NOT "

def ownerOpening : String := "[of "

def fieldSeparator : String := " , "

def itemSeparator : String := ", "

def flag (text : String) (isSet : Bool) : List Char :=
  if isSet then text.toList else []

def joined (items : List (List Char)) : List Char :=
  List.intercalate itemSeparator.toList items

/-- The members of a list, or a marker if there are none. -/
def list (marker : String) (items : List (List Char)) : List Char :=
  if items.isEmpty then marker.toList else joined items

def parenthesized (field : List Char) : List Char :=
  '(' :: field ++ [')']

def fields (texts : List (List Char)) : List Char :=
  List.intercalate fieldSeparator.toList (texts.map parenthesized)

def number (n : UInt32) : List Char :=
  Nat.toDigits 10 n.toNat

def modifier (text : String) : List Char :=
  '[' :: Text.Escape.encode text.toList ++ [']']

def noun (noun : Noun) : List Char :=
  flag allFlag noun.isAll ++ noun.modifiers.toList.flatMap modifier ++
    if noun.base.isEmpty then systemMarker.toList
    else Text.Escape.encodeBeside [allFlag] noun.base.toList

def entity : Entity → List Char
  | .own entityNoun => noun entityNoun
  | .part entityNoun whole =>
      noun entityNoun ++ ownerOpening.toList ++ entity whole ++ [']']

def operation (operation : Operation) : List Char :=
  flag ableFlag operation.able ++ flag notFlag operation.negated ++
    Text.Escape.encodeBeside [ableFlag, notFlag] operation.predicate.toList

/-- The texts of the five fields that conditions and requirements share. -/
def body (condition : Condition) : List (List Char) :=
  [ entity condition.agent,
    operation condition.operation,
    list voidMarker (condition.input.map entity),
    list voidMarker (condition.output.map entity),
    list voidMarker
      (condition.restriction.map fun text => Text.Escape.encode text.toList) ]

def condition (condition : Condition) : List Char :=
  '{' :: fields (body condition) ++ ['}']

def requirement (requirement : Requirement) : List Char :=
  fields
    (number requirement.id :: number requirement.group ::
      list alwaysMarker (requirement.events.map condition) ::
      body requirement.toCondition)

end Tuple

def Entity.toText (entity : Entity) : String :=
  String.ofList (Tuple.entity entity)

def Operation.toText (operation : Operation) : String :=
  String.ofList (Tuple.operation operation)

def Condition.toText (condition : Condition) : String :=
  String.ofList (Tuple.condition condition)

def Requirement.toText (requirement : Requirement) : String :=
  String.ofList (Tuple.requirement requirement)

end ReqConflict
