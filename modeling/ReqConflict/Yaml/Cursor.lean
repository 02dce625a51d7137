/-!
# Reading positions in YAML text

A text is a sequence of lines.  A cursor stands in one of them and knows what
is left of it and the lines below.  Most of YAML is decided within a line, and
the scalars that span lines recurse on the lines below.
-/

namespace ReqConflict.Yaml

/-- Why a text is not a YAML document of the wanted shape. -/
inductive Fault where
  | character (c : Char)
  | token (line : Nat)
  | arrangement
  | unknownAnchor (line : Nat)
  | unknownTag (line : Nat)
  | tooDeep
  | tooManyAliases
  | repeatedKey
  | number (text : String)
  | wanted (what : String)
deriving DecidableEq, Repr

def Fault.message : Fault → String
  | .character c =>
      "control character U+" ++ String.ofList (Nat.toDigits 16 c.toNat) ++ " is not allowed"
  | .token line => "malformed text at line " ++ toString (line + 1)
  | .arrangement => "misplaced indicator or content"
  | .unknownAnchor line => "unknown anchor at line " ++ toString (line + 1)
  | .unknownTag line => "undefined tag handle at line " ++ toString (line + 1)
  | .tooDeep => "collections are nested too deeply"
  | .tooManyAliases => "aliases are repeated too often"
  | .repeatedKey => "a key is given twice"
  | .number text => "number " ++ text ++ " is out of range"
  | .wanted what => "expected " ++ what

def isBlank (c : Char) : Bool :=
  c == ' ' || c == '\t'

/-- A break that is not a line feed keeps its own character in scalars. -/
def isBreak (c : Char) : Bool :=
  c == '\n' || c == '\u2028' || c == '\u2029'

def isByteOrderMark (c : Char) : Bool :=
  c == '\ufeff'

def isPrintable (c : Char) : Bool :=
  let n := c.toNat
  n == 0x09 || n == 0x0a || n == 0x0d || (0x20 ≤ n && n ≤ 0x7e) || n == 0x85
    || (0xa0 ≤ n && n ≤ 0xfffd) || 0x10000 ≤ n

/-- Characters of anchors, of tag handles and of the names of directives. -/
def isWordChar (c : Char) : Bool :=
  c.isAlphanum || c == '-' || c == '_'

/-- Nothing but a blank or the end of the line follows. -/
def atBlank : List Char → Bool
  | [] => true
  | c :: _ => isBlank c

/-- A line with the break before it. -/
abbrev Line := Char × List Char

/-- Splits a text into its first line and those below.  A carriage return, a
line feed, both together and a next-line character all are line feeds. -/
def splitLines : List Char → List Char × List Line
  | [] => ([], [])
  | '\r' :: '\n' :: rest => let (line, below) := splitLines rest; ([], ('\n', line) :: below)
  | c :: rest =>
      let (line, below) := splitLines rest
      if c == '\r' || c == '\u0085' then ([], ('\n', line) :: below)
      else if isBreak c then ([], (c, line) :: below)
      else (c :: line, below)

structure Cursor where
  /-- The number of the line, from zero. -/
  line : Nat
  width : Nat
  /-- What is left of the line. -/
  here : List Char
  below : List Line
deriving Repr

namespace Cursor

/-- The number of characters before the cursor in its line. -/
def column (cursor : Cursor) : Nat :=
  cursor.width - cursor.here.length

def goTo (cursor : Cursor) (here : List Char) : Cursor :=
  { cursor with here := here }

def skip (cursor : Cursor) (count : Nat) : Cursor :=
  cursor.goTo (cursor.here.drop count)

/-- The start of the line below. -/
def enter (number : Nat) (line : List Char) (below : List Line) : Cursor :=
  ⟨number, line.length, line, below⟩

/-- The cursor behind the end of the line, on the line below if there is one. -/
def nextLine (cursor : Cursor) : Cursor :=
  match cursor.below with
  | [] => cursor.goTo []
  | (_, line) :: below => enter (cursor.line + 1) line below

def start (text : List Char) : Cursor :=
  let (line, below) := splitLines text
  enter 0 line below

/-- The cursor behind a byte order mark at the start of its line.  The mark
takes a column. -/
def skipMark (cursor : Cursor) : Cursor :=
  match cursor.here with
  | c :: rest => if cursor.column == 0 && isByteOrderMark c then cursor.goTo rest else cursor
  | [] => cursor

def skipBlanks (cursor : Cursor) : Cursor :=
  cursor.goTo (cursor.here.dropWhile isBlank)

end Cursor

/-- A mark of three characters that starts or ends a document stands at the
beginning of the line. -/
def isDocumentMark (mark : Char) : List Char → Bool
  | a :: b :: c :: rest => a == mark && b == mark && c == mark && atBlank rest
  | _ => false

def startsDocumentMark (line : List Char) : Bool :=
  isDocumentMark '-' line || isDocumentMark '.' line

end ReqConflict.Yaml
