import ReqConflict.Text.Hidden
import ReqConflict.Yaml.Value

/-!
# Showing YAML values

A value that is not a name where a name belongs is shown in messages with its
kind, on one line.
-/

namespace ReqConflict.Yaml

def shownChar (c : Char) : List Char :=
  if c == '"' || c == '\\' then ['\\', c]
  else if c == '\n' then ['\\', 'n']
  else if c == '\r' then ['\\', 'r']
  else if c == '\t' then ['\\', 't']
  else if c == '\x00' then ['\\', '0']
  else if Text.isHidden c then
    '\\' :: 'u' :: '\x7b' :: Nat.toDigits 16 c.toNat ++ ['\x7d']
  else [c]

def quoted (text : String) : String :=
  String.ofList ('"' :: text.toList.flatMap shownChar ++ ['"'])

def braced (text : String) : String :=
  "\x7b" ++ text ++ "\x7d"

namespace Value

mutual

def inspect : Value → String
  | null => "Null"
  | bool value => "Bool(" ++ toString value ++ ")"
  | number value => "Number(" ++ value.toText ++ ")"
  | string text => "String(" ++ quoted text ++ ")"
  | sequence items => "Sequence [" ++ String.intercalate ", " (inspectItems items) ++ "]"
  | mapping entries => "Mapping " ++ braced (String.intercalate ", " (inspectEntries entries))
  | tagged tag value =>
      "TaggedValue " ++ braced (" tag: " ++ tag ++ ", value: " ++ inspect value ++ " ")

def inspectItems : List Value → List String
  | [] => []
  | item :: items => inspect item :: inspectItems items

/-- The entries of a mapping; keys that are scalars are shown without a kind. -/
def inspectEntries : List (Value × Value) → List String
  | [] => []
  | (key, value) :: entries =>
      let shown :=
        match key with
        | bool value => toString value
        | number value => value.toText
        | string text => quoted text
        | key => inspect key
      (shown ++ ": " ++ inspect value) :: inspectEntries entries

end

end Value

end ReqConflict.Yaml
