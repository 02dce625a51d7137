import ReqConflict.Yaml.Tag

/-!
# YAML tokens

A text is cut into tokens: scalars, properties of nodes, and indicators.  The
block structure is made explicit: where a block collection starts or ends by
its indentation there is a token for it.

A mapping key need not be marked.  Whatever may be a key is remembered with
its place, and when a colon follows in the same line, the tokens for the key
and for a new mapping are put in front of it.
-/

namespace ReqConflict.Yaml

inductive Token where
  | directive
  | documentStart
  | documentEnd
  | blockSequence
  | blockMapping
  | blockEnd
  | flowSequence
  | flowSequenceEnd
  | flowMapping
  | flowMappingEnd
  /-- The dash before an item of a block sequence. -/
  | entry
  /-- The comma between the items of a flow collection. -/
  | comma
  | key
  | value
  | anchor (slot : Nat)
  | alias (slot : Nat)
  | tag (name : String)
  | scalar (isPlain : Bool) (text : String)
deriving DecidableEq, Repr

/-- A place where a key may have started: how many tokens stand before it, and
its line and column.  A required key has to turn out to be one. -/
structure PossibleKey where
  required : Bool
  before : Nat
  line : Nat
  column : Nat
deriving Repr

structure Scanner where
  cursor : Cursor
  /-- The tokens so far, the latest one first. -/
  tokens : List Token
  count : Nat
  /-- The columns of the open block collections, innermost first. -/
  indents : List Nat
  /-- Whether a key without a mark may start here. -/
  keyAllowed : Bool
  key : Option PossibleKey
  /-- The possible keys around the open flow collections, innermost first. -/
  outer : List (Option PossibleKey)
  /-- The slots of the anchors, the latest one first. -/
  anchors : List (String × Nat)
  names : Nat
  handles : Handles
  hasVersion : Bool
deriving Repr

namespace Scanner

def start (text : List Char) : Scanner where
  cursor := Cursor.start text
  tokens := []
  count := 0
  indents := []
  keyAllowed := true
  key := none
  outer := []
  anchors := []
  names := 0
  handles := []
  hasVersion := false

def inFlow (scanner : Scanner) : Bool :=
  !scanner.outer.isEmpty

/-- The column from which the contents of the innermost block collection have
to stand. -/
def least (scanner : Scanner) : Nat :=
  match scanner.indents with
  | [] => 0
  | indent :: _ => indent + 1

def fault (scanner : Scanner) : Fault :=
  .token scanner.cursor.line

def moveTo (scanner : Scanner) (cursor : Cursor) : Scanner :=
  { scanner with cursor := cursor }

def emit (scanner : Scanner) (token : Token) : Scanner :=
  { scanner with tokens := token :: scanner.tokens, count := scanner.count + 1 }

/-- Puts a token in front of those after the first `before` ones. -/
def insert (scanner : Scanner) (before : Nat) (token : Token) : Scanner :=
  let latest := scanner.count - before
  { scanner with
    tokens := scanner.tokens.take latest ++ token :: scanner.tokens.drop latest
    count := scanner.count + 1 }

def allowKey (scanner : Scanner) (allowed : Bool) : Scanner :=
  { scanner with keyAllowed := allowed }

/-- Closes the block collections that are indented to more than `column`, or
all of them. -/
def closeBlocks (scanner : Scanner) (column : Option Nat) : Scanner :=
  if scanner.inFlow then scanner
  else
    let isOpen := fun indent =>
      match column with
      | some column => decide (column < indent)
      | none => true
    let closed := (scanner.indents.takeWhile isOpen).length
    { scanner with
      tokens := List.replicate closed Token.blockEnd ++ scanner.tokens
      count := scanner.count + closed
      indents := scanner.indents.drop closed }

/-- Opens a block collection at a column that is deeper than the innermost one,
`before` being the number of tokens in front of it. -/
def openBlock (scanner : Scanner) (column before : Nat) (token : Token) : Scanner :=
  if scanner.inFlow || column < scanner.least then scanner
  else { scanner.insert before token with indents := column :: scanner.indents }

def dropKey (scanner : Scanner) : Except Fault Scanner :=
  match scanner.key with
  | some key => if key.required then .error scanner.fault else .ok { scanner with key := none }
  | none => .ok scanner

def saveKey (scanner : Scanner) : Except Fault Scanner :=
  if scanner.keyAllowed then do
    let column := scanner.cursor.column
    let required := !scanner.inFlow && scanner.indents.head? == some column
    let scanner ← scanner.dropKey
    return { scanner with key := some ⟨required, scanner.count, scanner.cursor.line, column⟩ }
  else .ok scanner

/-- A key has to end in its line and within 1024 characters. -/
def isStale (cursor : Cursor) (key : PossibleKey) : Bool :=
  key.line < cursor.line || key.column + 1024 < cursor.column

def staleKey (cursor : Cursor) : Option PossibleKey → Except Fault (Option PossibleKey)
  | some key =>
      if isStale cursor key then
        if key.required then .error (.token cursor.line) else .ok none
      else .ok (some key)
  | none => .ok none

def dropStaleKeys (scanner : Scanner) : Except Fault Scanner := do
  let key ← staleKey scanner.cursor scanner.key
  let outer ← scanner.outer.mapM (staleKey scanner.cursor)
  return { scanner with key := key, outer := outer }

/-- The blanks to skip before a token.  Where a key may start in a block, tabs
are no indentation. -/
def isSkipped (scanner : Scanner) (c : Char) : Bool :=
  c == ' ' || (c == '\t' && (scanner.inFlow || !scanner.keyAllowed))

/-- Skips blanks, comments, line breaks, and byte order marks at the start of a
line.  A key may start on a new line of a block. -/
def skipGap (scanner : Scanner) : Scanner :=
  let lines := scanner.cursor.below.length + 1
  go lines scanner
where
  go : Nat → Scanner → Scanner
    | 0, scanner => scanner
    | lines + 1, scanner =>
        let cursor := scanner.cursor.skipMark
        let cursor := cursor.goTo (cursor.here.dropWhile scanner.isSkipped)
        let isOver := cursor.here.isEmpty || cursor.here.head? == some '#'
        if !isOver then scanner.moveTo cursor
        else if cursor.below.isEmpty then scanner.moveTo (cursor.goTo [])
        else
          let scanner := scanner.moveTo cursor.nextLine
          go lines (if scanner.inFlow then scanner else scanner.allowKey true)

def indicator (scanner : Scanner) (token : Token) : Scanner :=
  (scanner.moveTo (scanner.cursor.skip 1)).emit token

def openFlow (scanner : Scanner) (token : Token) : Except Fault Scanner := do
  let scanner ← scanner.saveKey
  let scanner := { scanner with key := none, outer := scanner.key :: scanner.outer }
  return (scanner.allowKey true).indicator token

def closeFlow (scanner : Scanner) (token : Token) : Except Fault Scanner := do
  let scanner ← scanner.dropKey
  let scanner :=
    match scanner.outer with
    | [] => scanner
    | key :: outer => { scanner with key := key, outer := outer }
  return (scanner.allowKey false).indicator token

def comma (scanner : Scanner) : Except Fault Scanner := do
  let scanner ← scanner.dropKey
  return (scanner.allowKey true).indicator .comma

/-- Opens a block collection here, where a key may start. -/
def openHere (scanner : Scanner) (token : Token) : Except Fault Scanner :=
  if scanner.inFlow then .ok scanner
  else if scanner.keyAllowed then .ok (scanner.openBlock scanner.cursor.column scanner.count token)
  else .error scanner.fault

def blockEntry (scanner : Scanner) : Except Fault Scanner := do
  let scanner ← scanner.openHere .blockSequence
  let scanner ← scanner.dropKey
  return (scanner.allowKey true).indicator .entry

def keyMark (scanner : Scanner) : Except Fault Scanner := do
  let scanner ← scanner.openHere .blockMapping
  let scanner ← scanner.dropKey
  return (scanner.allowKey (!scanner.inFlow)).indicator .key

/-- A colon turns what may be a key into one. -/
def valueMark (scanner : Scanner) : Except Fault Scanner :=
  match scanner.key with
  | some key =>
      let scanner := (scanner.insert key.before .key).openBlock key.column key.before .blockMapping
      .ok (({ scanner with key := none }.allowKey false).indicator .value)
  | none => do
      let scanner ← scanner.openHere .blockMapping
      return (scanner.allowKey (!scanner.inFlow)).indicator .value

/-! ## Documents and directives -/

/-- Leaves all block collections before a mark or a directive. -/
def leaveBlocks (scanner : Scanner) : Except Fault Scanner := do
  let scanner ← (scanner.closeBlocks none).dropKey
  return scanner.allowKey false

def documentMark (scanner : Scanner) (token : Token) : Except Fault Scanner := do
  let scanner ← scanner.leaveBlocks
  return (scanner.moveTo (scanner.cursor.skip 3)).emit token

def directiveLine (scanner : Scanner) : Except Fault Scanner := do
  let line := scanner.cursor.here.drop 1
  let scanner ← scanner.leaveBlocks
  let scanner := (scanner.moveTo (scanner.cursor.goTo [])).emit .directive
  match directive line with
  | none => throw scanner.fault
  | some .version =>
      if scanner.hasVersion then throw scanner.fault
      return { scanner with hasVersion := true }
  | some (.handle handle meaning) =>
      if scanner.handles.any fun entry => entry.1 == handle then throw scanner.fault
      return { scanner with handles := (handle, meaning) :: scanner.handles }

/-- The slot of an anchor is the number of names before it; a name that is
given again moves to a new slot, which may be shared. -/
def anchorMark (scanner : Scanner) : Except Fault Scanner := do
  let scanner ← scanner.saveKey
  match anchorName (scanner.cursor.here.drop 1) with
  | none => throw scanner.fault
  | some (name, rest) =>
      let isKnown := scanner.anchors.any fun entry => entry.1 == name
      let slot := scanner.names
      let scanner := (scanner.allowKey false).moveTo (scanner.cursor.goTo rest)
      return { scanner.emit (.anchor slot) with
        anchors := (name, slot) :: scanner.anchors
        names := if isKnown then scanner.names else scanner.names + 1 }

def aliasMark (scanner : Scanner) : Except Fault Scanner := do
  let scanner ← scanner.saveKey
  match anchorName (scanner.cursor.here.drop 1) with
  | none => throw scanner.fault
  | some (name, rest) =>
      match scanner.anchors.find? fun entry => entry.1 == name with
      | none => throw (.unknownAnchor scanner.cursor.line)
      | some (_, slot) =>
          return ((scanner.allowKey false).moveTo (scanner.cursor.goTo rest)).emit (.alias slot)

def tagMark (scanner : Scanner) : Except Fault Scanner := do
  let scanner ← scanner.saveKey
  match writtenTag (scanner.cursor.here.drop 1) with
  | none => throw scanner.fault
  | some (tag, rest) =>
      if !endsTag scanner.inFlow rest then throw scanner.fault
      match tag.expand scanner.handles with
      | none => throw (.unknownTag scanner.cursor.line)
      | some name =>
          return ((scanner.allowKey false).moveTo (scanner.cursor.goTo rest)).emit
            (.tag (String.ofList name))

/-! ## Scalars -/

def block (scanner : Scanner) (folded : Bool) : Except Fault Scanner := do
  let scanner ← scanner.dropKey
  let (text, cursor) ← blockScalar folded scanner.least (scanner.cursor.skip 1)
  return ((scanner.allowKey true).moveTo cursor).emit (.scalar false (String.ofList text))

def quoted (scanner : Scanner) (quote : Quote) : Except Fault Scanner := do
  let scanner ← scanner.saveKey
  let (text, cursor) ← quotedScalar quote (scanner.cursor.skip 1)
  return ((scanner.allowKey false).moveTo cursor).emit (.scalar false (String.ofList text))

def plain (scanner : Scanner) : Except Fault Scanner := do
  let scanner ← scanner.saveKey
  let (text, cursor, atBreak) ← plainScalar scanner.inFlow scanner.least scanner.cursor
  return ((scanner.allowKey atBreak).moveTo cursor).emit (.scalar true (String.ofList text))

/-- Characters that no plain scalar starts with, some exceptions apart. -/
def isIndicator (c : Char) : Bool :=
  "-?:,[]\x7b\x7d#&*!|>\x27\"%@\x60".toList.contains c

/-- Whether a plain scalar may start with a character before some others. -/
def startsPlain (inFlow : Bool) (c : Char) (rest : List Char) : Bool :=
  (!isBlank c && !isIndicator c)
    || (c == '-' && !(rest.head?.any isBlank))
    || (!inFlow && (c == '?' || c == ':') && !atBlank rest)

def token (scanner : Scanner) (c : Char) (rest : List Char) : Except Fault Scanner :=
  let isMark := scanner.inFlow || atBlank rest
  if c == '[' then scanner.openFlow .flowSequence
  else if c == '{' then scanner.openFlow .flowMapping
  else if c == ']' then scanner.closeFlow .flowSequenceEnd
  else if c == '}' then scanner.closeFlow .flowMappingEnd
  else if c == ',' then scanner.comma
  else if c == '-' && atBlank rest then scanner.blockEntry
  else if c == '?' && isMark then scanner.keyMark
  else if c == ':' && isMark then scanner.valueMark
  else if c == '*' then scanner.aliasMark
  else if c == '&' then scanner.anchorMark
  else if c == '!' then scanner.tagMark
  else if c == '|' && !scanner.inFlow then scanner.block false
  else if c == '>' && !scanner.inFlow then scanner.block true
  else if c == '\'' then scanner.quoted .single
  else if c == '"' then scanner.quoted .double
  else if startsPlain scanner.inFlow c rest then scanner.plain
  else .error scanner.fault

/-- Cuts off the next token, or ends with all tokens in order. -/
def step (scanner : Scanner) : Except Fault (Scanner ⊕ List Token) := do
  let scanner := scanner.skipGap
  let scanner ← scanner.dropStaleKeys
  let column := scanner.cursor.column
  match scanner.cursor.here with
  | [] => do
      let scanner ← (scanner.closeBlocks none).dropKey
      return .inr scanner.tokens.reverse
  | c :: rest =>
      let scanner := scanner.closeBlocks (some column)
      let here := c :: rest
      let next ←
        if column == 0 && c == '%' then scanner.directiveLine
        else if column == 0 && isDocumentMark '-' here then scanner.documentMark .documentStart
        else if column == 0 && isDocumentMark '.' here then scanner.documentMark .documentEnd
        else scanner.token c rest
      return .inl next

/-- Cuts off tokens to the end.  Every token but the ends of blocks takes a
character, so the length of the text bounds their number. -/
def run : Nat → Scanner → Except Fault (List Token)
  | 0, scanner => .error scanner.fault
  | left + 1, scanner => do
      match ← scanner.step with
      | .inr tokens => return tokens
      | .inl scanner => run left scanner

end Scanner

def tokens (text : List Char) : Except Fault (List Token) :=
  match text.find? fun c => !isPrintable c with
  | some c => .error (.character c)
  | none => Scanner.run (text.length + 1) (Scanner.start text)

end ReqConflict.Yaml
