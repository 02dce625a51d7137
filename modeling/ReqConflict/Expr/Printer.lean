import ReqConflict.Expr.Grammar

/-!
# The text of expressions

An operand is written in parentheses where it binds more loosely than its
place asks for, and only there.  The items of a disjunction are places for
conjunctions and the items of a conjunction are places for negations, so an
item of the same kind as the list it stands in is parenthesized as well.
Arguments, and the list and the body of a quantifier, are places for anything.
-/

namespace ReqConflict

/-- The kinds of expressions, from the one that binds most loosely to the one
that binds most tightly. -/
inductive Precedence where
  | disjunction
  | conjunction
  | negation
  | comparison
  | primary
deriving DecidableEq, Repr

def Precedence.strength : Precedence → Nat
  | disjunction => 0
  | conjunction => 1
  | negation => 2
  | comparison => 3
  | primary => 4

namespace Expr

def bracketed (text : List Char) : List Char :=
  '(' :: (text ++ [')'])

/-- Writes an operator expression of some precedence at a place for another. -/
def enclosed (own place : Precedence) (text : List Char) : List Char :=
  if own.strength < place.strength then bracketed text else text

def boolText (value : Bool) : List Char :=
  if value then "true".toList else "false".toList

def quotedText (text : List Char) : List Char :=
  '\'' :: (text ++ ['\''])

def pathText (root : String) (attributes : List Attribute) : List Char :=
  root.toList ++ attributes.flatMap fun wanted => '.' :: wanted.name.toList

/-- A word or a sign between two operands. -/
def operatorText (operator : String) : List Char :=
  ' ' :: (operator.toList ++ [' '])

def signText (isEqual : Bool) : List Char :=
  operatorText (if isEqual then "==" else "!=")

/-- An item, and further ones behind a separator. -/
def joinedText (separator : List Char) : List (List Char) → List Char
  | [] => []
  | first :: others => first ++ others.flatMap fun other => separator ++ other

mutual

/-- The text of an expression at a place for expressions of some precedence. -/
def textAt (place : Precedence) : Expr → List Char
  | bool value => boolText value
  | text value => quotedText value.toList
  | path root attributes => pathText root attributes
  | negation body =>
      enclosed .negation place ("not".toList ++ ' ' :: textAt .negation body)
  | conjunction items =>
      enclosed .conjunction place (joinedText (operatorText "and") (textsAt .negation items))
  | disjunction items =>
      enclosed .disjunction place (joinedText (operatorText "or") (textsAt .conjunction items))
  | comparison isEqual left right =>
      enclosed .comparison place
        (textAt .primary left ++ (signText isEqual ++ textAt .primary right))
  | call function arguments =>
      function.name.toList ++
        bracketed (joinedText [',', ' '] (textsAt .disjunction arguments))
  | quantified quantifier binder list body =>
      quantifier.name.toList ++
        bracketed (binder.toList ++ (operatorText "in" ++
          (textAt .disjunction list ++ ',' :: ' ' :: textAt .disjunction body)))

def textsAt (place : Precedence) : List Expr → List (List Char)
  | [] => []
  | item :: items => textAt place item :: textsAt place items

end

def toText (expr : Expr) : String :=
  String.ofList (textAt .disjunction expr)

/-- A name of ASCII letters, digits and underscores that starts with no digit. -/
def isIdentifier (name : String) : Bool :=
  match name.toList with
  | [] => false
  | c :: rest => (c.isAlpha || c == '_') && rest.all fun d => d.isAlphanum || d == '_'

/-- The names that are read as something else than a variable. -/
def reservedNames : List String :=
  ["true", "false", "not"]

mutual

/-- Every list of operands has at least two, every call has as many arguments
as its function takes, every variable is bound, and no text has a quote in it. -/
def isFormed (scope : List String) : Expr → Bool
  | bool _ => true
  | text value => !value.toList.contains '\''
  | path root _ => scope.contains root
  | negation body => isFormed scope body
  | conjunction items | disjunction items => 2 ≤ items.length && areFormed scope items
  | comparison _ left right => isFormed scope left && isFormed scope right
  | call function arguments => arguments.length == function.arity && areFormed scope arguments
  | quantified _ binder list body => isFormed scope list && isFormed (binder :: scope) body

def areFormed (scope : List String) : List Expr → Bool
  | [] => true
  | item :: items => isFormed scope item && areFormed scope items

end

mutual

/-- Every name can be written: binders are identifiers, and so are variables,
which are not reserved either. -/
def isSpelled : Expr → Bool
  | bool _ | text _ => true
  | path root _ => isIdentifier root && !reservedNames.contains root
  | negation body => isSpelled body
  | conjunction items | disjunction items => areSpelled items
  | comparison _ left right => isSpelled left && isSpelled right
  | call _ arguments => areSpelled arguments
  | quantified _ binder list body => isIdentifier binder && isSpelled list && isSpelled body

def areSpelled : List Expr → Bool
  | [] => true
  | item :: items => isSpelled item && areSpelled items

end

end Expr

end ReqConflict
