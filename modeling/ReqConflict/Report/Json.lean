/-!
# JSON texts

JSON is written over several lines, indented by two blanks, with the members of
an object in a given order.
-/

namespace ReqConflict.Report

inductive Json where
  | null
  | bool (value : Bool)
  | number (value : Nat)
  | string (text : String)
  | array (items : List Json)
  | object (members : List (String × Json))
deriving Repr, Inhabited

namespace Json

/-- A control character is written by two characters or by its code. -/
def escaped (c : Char) : List Char :=
  if c == '"' || c == '\\' then ['\\', c]
  else if c == '\x08' then ['\\', 'b']
  else if c == '\t' then ['\\', 't']
  else if c == '\n' then ['\\', 'n']
  else if c == '\x0c' then ['\\', 'f']
  else if c == '\r' then ['\\', 'r']
  else if c.toNat < 0x20 then
    ['\\', 'u', '0', '0', Nat.digitChar (c.toNat / 16), Nat.digitChar (c.toNat % 16)]
  else [c]

def quoted (text : String) : List Char :=
  '"' :: text.toList.flatMap escaped ++ ['"']

def newline (depth : Nat) : List Char :=
  '\n' :: List.replicate (2 * depth) ' '

/-- Parts between brackets, each on a line of its own. -/
def enclosed (depth : Nat) (opening closing : Char) (parts : List (List Char)) : List Char :=
  if parts.isEmpty then [opening, closing]
  else
    let separator := ',' :: newline (depth + 1)
    opening :: newline (depth + 1) ++ separator.intercalate parts ++ newline depth ++ [closing]

mutual

def write (depth : Nat) : Json → List Char
  | null => ['n', 'u', 'l', 'l']
  | bool value => (toString value).toList
  | number value => (toString value).toList
  | string text => quoted text
  | array items => enclosed depth '[' ']' (writeItems (depth + 1) items)
  | object members => enclosed depth '\x7b' '\x7d' (writeMembers (depth + 1) members)

def writeItems (depth : Nat) : List Json → List (List Char)
  | [] => []
  | item :: items => write depth item :: writeItems depth items

def writeMembers (depth : Nat) : List (String × Json) → List (List Char)
  | [] => []
  | (name, value) :: members =>
      (quoted name ++ ':' :: ' ' :: write depth value) :: writeMembers depth members

end

def toText (json : Json) : String :=
  String.ofList (write 0 json ++ ['\n'])

end Json

end ReqConflict.Report
