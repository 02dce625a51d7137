import ReqConflict.Expr.Basic
import ReqConflict.Text.Alphanumeric
import ReqConflict.Text.Parser

/-!
# The grammar of expressions

From the loosest binding to the tightest: `or`, `and`, `not`, the comparisons
`==` and `!=`, and then parentheses, quantifiers, calls, literals and paths.
Reading gives a phrase, in which names are not yet resolved.
-/

namespace ReqConflict

/-- An expression whose names are as they were written. -/
inductive Phrase where
  | bool (value : Bool)
  | text (value : String)
  | path (root : String) (attributes : List String)
  | negation (body : Phrase)
  | conjunction (items : List Phrase)
  | disjunction (items : List Phrase)
  | comparison (isEqual : Bool) (left right : Phrase)
  | call (function : String) (arguments : List Phrase)
  | quantified (quantifier : Quantifier) (binder : String) (list body : Phrase)
deriving Repr, Inhabited

namespace Phrase

open Text Text.Parser

def isGap (c : Char) : Bool :=
  c == ' ' || c == '\t' || c == '\r' || c == '\n'

def gap : Parser Unit := do
  let _ ← span isGap

def spaced {α : Type} (part : Parser α) : Parser α :=
  between gap part gap

def isWordChar (c : Char) : Bool :=
  isAlphanumeric c || c == '_'

/-- A word of the language, which no letter or digit may follow. -/
def keyword (text : String) : Parser Unit := do
  word text
  missing (oneOf "Satisfy" isWordChar)

def underscore : Parser (List Char) := do
  word "_"
  pure ['_']

/-- A name of ASCII letters, digits and underscores. -/
def name : Parser String := do
  let head ← choice [span1 "Alpha" Char.isAlpha, underscore]
  let tail ← many (choice [span1 "AlphaNumeric" Char.isAlphanum, underscore])
  pure (String.ofList (head ++ tail.flatten))

def closing : Parser Unit :=
  commit (named "closing parenthesis" (spaced (char ')')))

def parenthesized (inner : Parser Phrase) : Parser Phrase := do
  char '('
  let phrase ← spaced inner
  commit (named "closing parenthesis" (char ')'))
  pure phrase

def quantifier : Parser Quantifier :=
  choice [
    do keyword "any"; pure .any,
    do keyword "all"; pure .all]

/-- Once the variable and the word `in` are read, this can be no call. -/
def quantification (inner : Parser Phrase) : Parser Phrase := do
  let quantifier ← quantifier
  spaced (char '(')
  let binder ← name
  spaced (keyword "in")
  let list ← commit inner
  commit (named "',' before quantifier body" (spaced (char ',')))
  let body ← commit inner
  closing
  pure (.quantified quantifier binder list body)

def callOf (inner : Parser Phrase) : Parser Phrase := do
  let function ← name
  gap
  char '('
  let arguments ← separated (spaced (char ',')) inner
  closing
  pure (.call function arguments)

def quotedText : Parser Phrase := do
  char '\''
  let text ← span (· != '\'')
  commit (named "closing quote" (char '\''))
  pure (.text (String.ofList text))

def literal : Parser Phrase :=
  choice [
    do keyword "true"; pure (.bool true),
    do keyword "false"; pure (.bool false),
    quotedText]

def pathPhrase : Parser Phrase := do
  match ← separated1 (char '.') name with
  | [] => reject (.part "Alpha")
  | root :: attributes => pure (.path root attributes)

def primary (inner : Parser Phrase) : Parser Phrase :=
  spaced (choice [parenthesized inner, quantification inner, callOf inner, literal, pathPhrase])

def joined (join : List Phrase → Phrase) (head : Phrase) : List Phrase → Phrase
  | [] => head
  | tail => join (head :: tail)

/-- Phrases separated by a word, behind which a phrase has to stand. -/
def chain (operator : String) (join : List Phrase → Phrase) (part : Parser Phrase) :
    Parser Phrase := do
  let head ← part
  let tail ← many do
    spaced (keyword operator)
    commit part
  pure (joined join head tail)

def comparisonSign : Parser Bool :=
  spaced (choice [
    do word "=="; pure true,
    do word "!="; pure false])

def comparisonOf (primary : Parser Phrase) : Parser Phrase := do
  let left ← primary
  let right ← optional do
    let isEqual ← comparisonSign
    let right ← commit (named "right-hand side of comparison" primary)
    pure (isEqual, right)
  match right with
  | none => pure left
  | some (isEqual, right) => pure (.comparison isEqual left right)

/-- A comparison behind at most `bound` negations. -/
def negationUpTo (comparison : Parser Phrase) : Nat → Parser Phrase
  | 0 => comparison
  | bound + 1 =>
      choice [
        do
          spaced (keyword "not")
          let body ← commit (negationUpTo comparison bound)
          pure (.negation body),
        comparison]

/-- An expression in which parentheses, calls and quantifiers nest less than
`bound` deep, and negations at most as deep. -/
def upTo : Nat → Parser Phrase
  | 0 => reject (.part "Alt")
  | bound + 1 =>
      chain "or" .disjunction
        (chain "and" .conjunction
          (negationUpTo (comparisonOf (primary (upTo bound))) (bound + 1)))

/-- An expression.  Whatever nests takes a character for each level, so the
length of the text bounds the depth. -/
def expression : Parser Phrase :=
  fun input => upTo (input.length + 1) input

def read (text : String) : Except ExprError Phrase :=
  (whole (spaced expression) text.toList).toExcept fun trace =>
    .malformed (trace.render text.toList)

end Phrase

end ReqConflict
