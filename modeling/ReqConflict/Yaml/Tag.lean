import ReqConflict.Yaml.Scalar

/-!
# Anchors, tags and directives

A node may carry an anchor, by which aliases refer to it, and a tag.  A tag is
written in full between angle brackets, or with a handle that stands for its
beginning; directives at the head of a document define handles.

Every function here reads a beginning of a line and answers with the rest.
-/

namespace ReqConflict.Yaml

/-- The name of an anchor or an alias.  It is not empty and ends at a blank or
at an indicator. -/
def anchorName (line : List Char) : Option (String × List Char) :=
  let name := line.takeWhile isWordChar
  let rest := line.dropWhile isWordChar
  let ends :=
    match rest with
    | [] => true
    | c :: _ => isBlank c || "?:,]\x7d%@\x60".toList.contains c
  if name.isEmpty || !ends then none else some (String.ofList name, rest)

def isUriChar (isVerbatim : Bool) (c : Char) : Bool :=
  isWordChar c || ";/?:@&=+$.%!~*'()".toList.contains c
    || (isVerbatim && (c == ',' || c == '[' || c == ']'))

/-- A byte written as a percent sign and two hexadecimal digits. -/
def escapedByte : List Char → Option (Nat × List Char)
  | '%' :: a :: b :: rest =>
      match hexDigit? a, hexDigit? b with
      | some high, some low => some (high * 16 + low, rest)
      | _, _ => none
  | _ => none

def escapedTail (value : Nat) : Nat → List Char → Option (Nat × List Char)
  | 0, rest => some (value, rest)
  | count + 1, input =>
      match escapedByte input with
      | some (byte, rest) =>
          if byte / 64 = 2 then escapedTail (value * 64 + byte % 64) count rest else none
      | none => none

/-- A character written by the bytes of its encoding. -/
def escapedChar (input : List Char) : Option (Char × List Char) :=
  let whole := fun (lead : Option (Nat × Nat × List Char)) =>
    match lead with
    | none => none
    | some (value, count, rest) =>
        match escapedTail value count rest with
        | some (code, rest) => (charOfCode? code).map fun c => (c, rest)
        | none => none
  match escapedByte input with
  | none => none
  | some (byte, rest) =>
      if byte < 128 then whole (some (byte, 0, rest))
      else if byte / 32 = 6 then whole (some (byte % 32, 1, rest))
      else if byte / 16 = 14 then whole (some (byte % 16, 2, rest))
      else if byte / 8 = 30 then whole (some (byte % 8, 3, rest))
      else none

/-- The characters of a tag, escapes resolved; `left` bounds their number. -/
def uri (isVerbatim : Bool) : Nat → List Char → Option (List Char × List Char)
  | 0, rest => some ([], rest)
  | _ + 1, [] => some ([], [])
  | left + 1, c :: rest =>
      if c == '%' then
        match escapedChar (c :: rest) with
        | some (d, rest) => (uri isVerbatim left rest).map fun (text, rest) => (d :: text, rest)
        | none => none
      else if isUriChar isVerbatim c then
        (uri isVerbatim left rest).map fun (text, rest) => (c :: text, rest)
      else some ([], c :: rest)

def uriOf (isVerbatim : Bool) (input : List Char) : Option (List Char × List Char) :=
  uri isVerbatim input.length input

/-- The beginnings that handles stand for, user-defined ones first. -/
abbrev Handles := List (List Char × List Char)

namespace Handles

def standard : Handles :=
  [(['!'], ['!']), (['!', '!'], "tag:yaml.org,2002:".toList)]

def expand (handles : Handles) (handle suffix : List Char) : Option (List Char) :=
  ((handles ++ standard).find? fun entry => entry.1 == handle).map fun entry => entry.2 ++ suffix

end Handles

/-- A tag as it is written: in full, or a handle and a suffix. -/
inductive WrittenTag where
  | full (name : List Char)
  | short (handle suffix : List Char)
deriving Repr

/-- The tag behind its exclamation mark. -/
def writtenTag (line : List Char) : Option (WrittenTag × List Char) :=
  match line with
  | '<' :: rest =>
      match uriOf true rest with
      | some (name, '>' :: rest) => if name.isEmpty then none else some (.full name, rest)
      | _ => none
  | _ =>
      let word := line.takeWhile isWordChar
      match line.dropWhile isWordChar with
      | '!' :: rest =>
          match uriOf false rest with
          | some (suffix, rest) =>
              if suffix.isEmpty then none else some (.short ('!' :: word ++ ['!']) suffix, rest)
          | none => none
      | rest =>
          match uriOf false rest with
          | some (suffix, rest) =>
              if word.isEmpty && suffix.isEmpty then some (.full ['!'], rest)
              else some (.short ['!'] (word ++ suffix), rest)
          | none => none

/-- A tag must be followed by a blank, or by a comma in a flow collection. -/
def endsTag (inFlow : Bool) (rest : List Char) : Bool :=
  atBlank rest || (inFlow && rest.head? == some ',')

def WrittenTag.expand (handles : Handles) : WrittenTag → Option (List Char)
  | full name => some name
  | short handle suffix => handles.expand handle suffix

inductive Directive where
  | version
  | handle (handle meaning : List Char)
deriving Repr

/-- A number of at most nine digits. -/
def versionNumber (input : List Char) : Option (Nat × List Char) :=
  let digits := input.takeWhile Char.isDigit
  if digits.isEmpty || 9 < digits.length then none
  else
    let number := digits.foldl (fun n c => n * 10 + (c.toNat - '0'.toNat)) 0
    some (number, input.dropWhile Char.isDigit)

def versionDirective (input : List Char) : Option (Directive × List Char) :=
  match versionNumber (input.dropWhile isBlank) with
  | some (1, '.' :: rest) =>
      match versionNumber rest with
      | some (minor, rest) => if minor = 1 || minor = 2 then some (.version, rest) else none
      | none => none
  | _ => none

/-- A handle, which starts and ends with an exclamation mark. -/
def handleName : List Char → Option (List Char × List Char)
  | '!' :: input =>
      let word := input.takeWhile isWordChar
      match input.dropWhile isWordChar with
      | '!' :: rest => some ('!' :: word ++ ['!'], rest)
      | rest => if word.isEmpty then some (['!'], rest) else none
  | _ => none

def handleDirective (input : List Char) : Option (Directive × List Char) :=
  match handleName (input.dropWhile isBlank) with
  | some (handle, c :: rest) =>
      if !isBlank c then none
      else
        match uriOf true (rest.dropWhile isBlank) with
        | some (meaning, rest) =>
            if meaning.isEmpty || !atBlank rest then none else some (.handle handle meaning, rest)
        | none => none
  | _ => none

/-- The directive behind its percent sign, which fills the line. -/
def directive (line : List Char) : Option Directive :=
  let name := String.ofList (line.takeWhile isWordChar)
  let rest := line.dropWhile isWordChar
  let reading :=
    if !atBlank rest then none
    else if name = "YAML" then versionDirective rest
    else if name = "TAG" then handleDirective rest
    else none
  match reading with
  | some (directive, rest) => if isBlankOrComment rest then some directive else none
  | none => none

end ReqConflict.Yaml
