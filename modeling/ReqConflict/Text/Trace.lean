import ReqConflict.Text.Blank

/-!
# Traces of a failed reading

A parser that fails leaves a trace: the places it complains about, innermost
first, each with what was looked for there.  A place is given by the input
that remained.  `Trace.render` quotes, for every complaint, the line of the
input that holds the place, with a caret under it.
-/

namespace ReqConflict.Text

/-- What a parser looked for: a single character, or a part of the grammar
that has a name. -/
inductive Wanted where
  | char (c : Char)
  | part (name : String)
deriving DecidableEq, Repr

structure Complaint where
  rest : List Char
  wanted : Wanted
deriving DecidableEq, Repr

abbrev Trace := List Complaint

/-- The place in `input` at which `rest` remains: the number of the line,
that line up to its end, and the part of it that precedes the place. -/
structure Place where
  line : Nat
  text : List Char
  before : List Char

def Place.of (input rest : List Char) : Place :=
  let passed := input.take (input.length - rest.length)
  let before := (passed.reverse.takeWhile (· != '\n')).reverse
  { line := passed.count '\n' + 1
    text := trimEnd (before ++ rest.takeWhile (· != '\n'))
    before := before }

/-- The quoted line with a caret under the place; a caret stands as many
columns to the right as the line has bytes before the place. -/
def Place.quote (place : Place) : String :=
  String.ofList place.text ++ "\n" ++
    String.ofList (List.replicate (byteLength place.before) ' ') ++ "^\n"

def Complaint.renderAt (number : Nat) (input : List Char) (complaint : Complaint) : String :=
  let place := Place.of input complaint.rest
  let start := toString number ++ ": "
  match input, complaint.wanted, complaint.rest with
  | [], .char c, _ => start ++ "expected '" ++ c.toString ++ "', got empty input\n\n"
  | [], .part name, _ => start ++ "in " ++ name ++ ", got empty input\n\n"
  | _, .char c, [] =>
      start ++ "at line " ++ toString place.line ++ ":\n" ++ place.quote ++
        "expected '" ++ c.toString ++ "', got end of input\n\n"
  | _, .char c, found :: _ =>
      start ++ "at line " ++ toString place.line ++ ":\n" ++ place.quote ++
        "expected '" ++ c.toString ++ "', found " ++ found.toString ++ "\n\n"
  | _, .part name, _ =>
      start ++ "at line " ++ toString place.line ++ ", in " ++ name ++ ":\n" ++
        place.quote ++ "\n"

/-- All complaints in order, numbered from zero. -/
def Trace.render (input : List Char) (trace : Trace) : String :=
  String.join (trace.mapIdx fun number complaint => complaint.renderAt number input)

end ReqConflict.Text
