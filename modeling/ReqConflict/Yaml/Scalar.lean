import ReqConflict.Yaml.Cursor

/-!
# YAML scalars

Plain, quoted and block scalars, each read from the cursor where it begins.
A scalar that goes on over several lines is folded: a single line feed between
two lines becomes a space, and of more line breaks in a row the first is
dropped.
-/

namespace ReqConflict.Yaml

/-- The part of a scalar that stands in one line.  Either the scalar ends in
the line, or the line ends first; `isJoined` tells that its end is escaped. -/
inductive LinePart where
  | ended (text rest : List Char)
  | unfinished (text : List Char) (isJoined : Bool)
deriving Repr

namespace LinePart

def after (before : List Char) : LinePart → LinePart
  | ended text rest => ended (before ++ text) rest
  | unfinished text isJoined => unfinished (before ++ text) isJoined

end LinePart

/-- What line breaks between two parts of a scalar stand for. -/
def foldBreaks : List Char → List Char
  | [] => []
  | ['\n'] => [' ']
  | '\n' :: more => more
  | breaks => breaks

def isFlowIndicator (c : Char) : Bool :=
  c == ',' || c == '[' || c == ']' || c == '{' || c == '}'

/-- A colon that ends a plain scalar: one before a blank. -/
def endsPlain (inFlow : Bool) (c : Char) (rest : List Char) : Bool :=
  (c == ':' && atBlank rest) || (inFlow && isFlowIndicator c)

/-- In a flow collection a colon is not allowed right before an indicator. -/
def isStrayColon (inFlow : Bool) (c : Char) (rest : List Char) : Bool :=
  inFlow && c == ':' &&
    match rest with
    | d :: _ => isFlowIndicator d || d == '?'
    | [] => false

/-- The part of a line that belongs to a plain scalar.  `blanks` are the blanks
just read, and `afterGap` tells whether a number sign would start a comment. -/
def plainPart (inFlow : Bool) (blanks : List Char) (afterGap : Bool) : List Char → Option LinePart
  | [] => some (.unfinished [] false)
  | c :: rest =>
      if isBlank c then plainPart inFlow (blanks ++ [c]) true rest
      else if afterGap && c == '#' then some (.ended [] (c :: rest))
      else if isStrayColon inFlow c rest then none
      else if endsPlain inFlow c rest then some (.ended [] (c :: rest))
      else (plainPart inFlow [] false rest).map (.after (blanks ++ [c]))

/-- A tab in front of a column. -/
def hasTabBefore (column : Nat) (line : List Char) : Bool :=
  ((line.takeWhile isBlank).take column).contains '\t'

/-- A plain scalar, the cursor behind it, and whether line breaks are the last
thing it took. -/
abbrev PlainScalar := List Char × Cursor × Bool

/-- The lines below the first one that belong to a plain scalar, which in a
block must be indented to a column. -/
def plainBelow (inFlow : Bool) (indent : Nat) (breaks : List Char) (last : Cursor) :
    List Line → Except Fault PlainScalar
  | [] => .ok ([], last, !breaks.isEmpty)
  | (b, line) :: below => do
      let cursor := Cursor.enter (last.line + 1) line below
      if hasTabBefore indent line then throw (.token cursor.line)
      let breaks := breaks ++ [b]
      let cursor := cursor.skipBlanks
      if cursor.here.isEmpty then plainBelow inFlow indent breaks cursor below
      else if (!inFlow && cursor.column < indent) || startsDocumentMark line then
        return ([], cursor, true)
      else
        match plainPart inFlow [] true cursor.here with
        | none => throw (.token cursor.line)
        | some (.ended [] rest) => return ([], cursor.goTo rest, true)
        | some (.ended text rest) => return (foldBreaks breaks ++ text, cursor.goTo rest, false)
        | some (.unfinished text _) => do
            let (more, rest, atBreak) ← plainBelow inFlow indent [] (cursor.goTo []) below
            return (foldBreaks breaks ++ text ++ more, rest, atBreak)

def plainScalar (inFlow : Bool) (indent : Nat) (cursor : Cursor) : Except Fault PlainScalar :=
  match plainPart inFlow [] false cursor.here with
  | none => .error (.token cursor.line)
  | some (.ended text rest) => .ok (text, cursor.goTo rest, false)
  | some (.unfinished text _) => do
      let (more, rest, atBreak) ← plainBelow inFlow indent [] (cursor.goTo []) cursor.below
      return (text ++ more, rest, atBreak)

/-! ## Quoted scalars -/

def hexDigit? (c : Char) : Option Nat :=
  if c.isDigit then some (c.toNat - '0'.toNat)
  else if 'a' ≤ c && c ≤ 'f' then some (c.toNat - 'a'.toNat + 10)
  else if 'A' ≤ c && c ≤ 'F' then some (c.toNat - 'A'.toNat + 10)
  else none

/-- The value of `count` hexadecimal digits, and what follows them. -/
def hexDigits (count value : Nat) (input : List Char) : Option (Nat × List Char) :=
  match count, input with
  | 0, rest => some (value, rest)
  | _ + 1, [] => none
  | count + 1, c :: rest =>
      match hexDigit? c with
      | some digit => hexDigits count (value * 16 + digit) rest
      | none => none

def charOfCode? (code : Nat) : Option Char :=
  if code.isValidChar then some (Char.ofNat code) else none

def simpleEscape? : Char → Option Char
  | '0' => some '\x00'
  | 'a' => some '\x07'
  | 'b' => some '\x08'
  | 't' | '\t' => some '\t'
  | 'n' => some '\n'
  | 'v' => some '\x0b'
  | 'f' => some '\x0c'
  | 'r' => some '\r'
  | 'e' => some '\x1b'
  | ' ' => some ' '
  | '"' => some '"'
  | '/' => some '/'
  | '\\' => some '\\'
  | 'N' => some '\u0085'
  | '_' => some '\u00a0'
  | 'L' => some '\u2028'
  | 'P' => some '\u2029'
  | _ => none

def codeLength? : Char → Option Nat
  | 'x' => some 2
  | 'u' => some 4
  | 'U' => some 8
  | _ => none

/-- The character whose code is written with `count` hexadecimal digits, and
what follows them. -/
def codeChar? (count : Nat) (input : List Char) : Option (Char × List Char) :=
  match hexDigits count 0 input with
  | some (code, rest) => (charOfCode? code).map fun c => (c, rest)
  | none => none

/-- The part of a line that belongs to a single-quoted scalar. -/
def singlePart (blanks : List Char) : List Char → Option LinePart
  | [] => some (.unfinished [] false)
  | '\'' :: '\'' :: rest => (singlePart [] rest).map (.after (blanks ++ ['\'']))
  | c :: rest =>
      if c == '\'' then some (.ended blanks rest)
      else if isBlank c then singlePart (blanks ++ [c]) rest
      else (singlePart [] rest).map (.after (blanks ++ [c]))

/-- The part of a line that belongs to a double-quoted scalar.  `left` bounds
the number of characters and escapes. -/
def doublePart (blanks : List Char) : Nat → List Char → Option LinePart
  | 0, _ => none
  | _ + 1, [] => some (.unfinished [] false)
  | _ + 1, ['\\'] => some (.unfinished blanks true)
  | left + 1, '\\' :: c :: rest =>
      match codeLength? c with
      | some count =>
          match codeChar? count rest with
          | some (d, rest) => (doublePart [] left rest).map (.after (blanks ++ [d]))
          | none => none
      | none =>
          match simpleEscape? c with
          | some d => (doublePart [] left rest).map (.after (blanks ++ [d]))
          | none => none
  | left + 1, c :: rest =>
      if c == '"' then some (.ended blanks rest)
      else if isBlank c then doublePart (blanks ++ [c]) left rest
      else (doublePart [] left rest).map (.after (blanks ++ [c]))

inductive Quote where
  | single
  | double
deriving DecidableEq, Repr

def Quote.part : Quote → List Char → Option LinePart
  | .single, line => singlePart [] line
  | .double, line => doublePart [] (line.length + 1) line

/-- The lines below the first one that belong to a quoted scalar.  `isJoined`
tells that the first break is escaped. -/
def quotedBelow (quote : Quote) (isJoined : Bool) (breaks : List Char) (number : Nat) :
    List Line → Except Fault (List Char × Cursor)
  | [] => .error (.token number)
  | (b, line) :: below => do
      let cursor := (Cursor.enter (number + 1) line below).skipBlanks
      let breaks := breaks ++ [b]
      if startsDocumentMark line then throw (.token cursor.line)
      if cursor.here.isEmpty then quotedBelow quote isJoined breaks cursor.line below
      else
        let gap := if isJoined then breaks.drop 1 else foldBreaks breaks
        match quote.part cursor.here with
        | none => throw (.token cursor.line)
        | some (.ended text rest) => return (gap ++ text, cursor.goTo rest)
        | some (.unfinished text isJoined) => do
            let (more, rest) ← quotedBelow quote isJoined [] cursor.line below
            return (gap ++ text ++ more, rest)

def quotedScalar (quote : Quote) (cursor : Cursor) : Except Fault (List Char × Cursor) :=
  match quote.part cursor.here with
  | none => .error (.token cursor.line)
  | some (.ended text rest) => .ok (text, cursor.goTo rest)
  | some (.unfinished text isJoined) => do
      let (more, rest) ← quotedBelow quote isJoined [] cursor.line cursor.below
      return (text ++ more, rest)

/-! ## Block scalars -/

inductive Chomping where
  | strip
  | clip
  | keep
deriving DecidableEq, Repr

def chomping? : Char → Option Chomping
  | '-' => some .strip
  | '+' => some .keep
  | _ => none

/-- An indentation that is given, from 1 to 9. -/
def indentation? (c : Char) : Option Nat :=
  if c.isDigit && c != '0' then some (c.toNat - '0'.toNat) else none

/-- The chomping and the indentation behind the indicator of a block scalar. -/
def blockHeader : List Char → Option (Chomping × Option Nat × List Char)
  | [] => some (.clip, none, [])
  | c :: rest =>
      match chomping? c with
      | some chomping =>
          match rest with
          | d :: others =>
              if d.isDigit then (indentation? d).map fun n => (chomping, some n, others)
              else some (chomping, none, rest)
          | [] => some (chomping, none, [])
      | none =>
          if c.isDigit then
            match indentation? c, rest with
            | none, _ => none
            | some n, d :: others =>
                match chomping? d with
                | some chomping => some (chomping, some n, others)
                | none => some (.clip, some n, rest)
            | some n, [] => some (.clip, some n, [])
          else some (.clip, none, c :: rest)

/-- Behind a header there may only be blanks and a comment. -/
def isBlankOrComment (rest : List Char) : Bool :=
  match rest.dropWhile isBlank with
  | [] => true
  | c :: _ => c == '#'

def leadingSpaces (line : List Char) : Nat :=
  (line.takeWhile (· == ' ')).length

/-- The indentation of a block scalar whose header gives none: that of its
first line that is not empty, but at least that of any empty line above it. -/
def detectIndent (deepest : Nat) : List Line → Option Nat
  | [] => some deepest
  | (_, line) :: below =>
      let spaces := leadingSpaces line
      let deepest := max deepest spaces
      match line.drop spaces with
      | '\t' :: _ => none
      | [] => detectIndent deepest below
      | _ => some deepest

/-- What is kept of the breaks behind the last line of text. -/
def Chomping.kept : Chomping → List Char → List Char
  | .strip, _ => []
  | .clip, breaks => breaks.take 1
  | .keep, breaks => breaks

structure BlockStyle where
  folded : Bool
  chomping : Chomping
  indent : Nat
deriving DecidableEq, Repr

def startsBlank : List Char → Bool
  | c :: _ => isBlank c
  | [] => false

/-- The text between the line of text `above` and the one below, given the
breaks between them.  The break of the header is no part of the scalar. -/
def BlockStyle.gap (style : BlockStyle) (above : Option (List Char)) (breaks line : List Char) :
    List Char :=
  match above with
  | none => breaks.drop 1
  | some text =>
      if style.folded && !startsBlank text && !startsBlank line then foldBreaks breaks else breaks

/-- The text below the last line of text. -/
def BlockStyle.tail (style : BlockStyle) (above : Option (List Char)) (breaks : List Char) :
    List Char :=
  match above, style.chomping with
  | some _, chomping => chomping.kept breaks
  | none, .keep => breaks.drop 1
  | none, _ => []

/-- The lines of a block scalar.  `above` is the last line of text, if there is
one already, and `breaks` are the breaks since. -/
def blockLines (style : BlockStyle) (above : Option (List Char)) (breaks : List Char)
    (last : Cursor) : List Line → Except Fault (List Char × Cursor)
  | [] => .ok (style.tail above breaks, last)
  | (b, line) :: below => do
      let cursor := Cursor.enter (last.line + 1) line below
      let cursor := cursor.skip (min style.indent (leadingSpaces line))
      let breaks := breaks ++ [b]
      if cursor.here.isEmpty then blockLines style above breaks cursor below
      else if cursor.column < style.indent then
        if hasTabBefore style.indent line then throw (.token cursor.line)
        else return (style.tail above breaks, cursor)
      else
        let text := cursor.here
        let (more, rest) ← blockLines style (some text) [] (cursor.goTo []) below
        return (style.gap above breaks text ++ text ++ more, rest)

/-- The block scalar whose header starts at the cursor, in a block whose
contents stand at least at the column `least`. -/
def blockScalar (folded : Bool) (least : Nat) (cursor : Cursor) :
    Except Fault (List Char × Cursor) :=
  match blockHeader cursor.here with
  | none => .error (.token cursor.line)
  | some (chomping, given, rest) =>
      if !isBlankOrComment rest then .error (.token cursor.line)
      else
        let indent :=
          match given with
          | some n => some (n + (least - 1))
          | none => (detectIndent 0 cursor.below).map fun deepest => max deepest (max least 1)
        match indent with
        | none => .error (.token cursor.line)
        | some indent => blockLines ⟨folded, chomping, indent⟩ none [] (cursor.goTo []) cursor.below

end ReqConflict.Yaml
