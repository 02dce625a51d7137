import ReqConflict.Text.Trace

/-!
# Parsers

A parser reads a beginning of the input and hands back the rest.  It either
succeeds, or fails with a trace of complaints.  A failure is *open* when
another branch of the grammar may still be tried, and *committed* when the
part of the grammar has been recognised and its reading went wrong: a
committed failure is final.

The combinators fix how traces grow: a named part adds its name at the place
where it started, a choice reports its last branch and then itself.
-/

namespace ReqConflict.Text

inductive Reply (α : Type) where
  | done (value : α) (rest : List Char)
  | fail (committed : Bool) (trace : Trace)
deriving Repr, DecidableEq

def Parser (α : Type) : Type := List Char → Reply α

namespace Parser

variable {α β : Type}

protected def pure (value : α) : Parser α :=
  fun input => .done value input

protected def bind (first : Parser α) (next : α → Parser β) : Parser β :=
  fun input =>
    match first input with
    | .done value rest => next value rest
    | .fail committed trace => .fail committed trace

instance : Monad Parser where
  pure := Parser.pure
  bind := Parser.bind

@[simp] theorem pure_apply (value : α) (input : List Char) :
    (pure value : Parser α) input = .done value input :=
  rfl

theorem bind_apply (first : Parser α) (next : α → Parser β) (input : List Char) :
    (first >>= next) input =
      match first input with
      | .done value rest => next value rest
      | .fail committed trace => .fail committed trace :=
  rfl

theorem bind_done {first : Parser α} {next : α → Parser β} {input rest : List Char} {value : α}
    (h : first input = .done value rest) : (first >>= next) input = next value rest := by
  rw [bind_apply, h]

theorem bind_fail {first : Parser α} {next : α → Parser β} {input : List Char}
    {committed : Bool} {trace : Trace} (h : first input = .fail committed trace) :
    (first >>= next) input = .fail committed trace := by
  rw [bind_apply, h]

def reject (wanted : Wanted) : Parser α :=
  fun input => .fail false [⟨input, wanted⟩]

def char (c : Char) : Parser Unit
  | [] => .fail false [⟨[], .char c⟩]
  | d :: rest => if d = c then .done () rest else .fail false [⟨d :: rest, .char c⟩]

/-- A character of a class; `name` is the name of the class. -/
def oneOf (name : String) (accepts : Char → Bool) : Parser Char
  | [] => .fail false [⟨[], .part name⟩]
  | c :: rest => if accepts c then .done c rest else .fail false [⟨c :: rest, .part name⟩]

/-- The input after `word`, if the input starts with it. -/
def dropWord : List Char → List Char → Option (List Char)
  | [], input => some input
  | _ :: _, [] => none
  | c :: word, d :: input => if c = d then dropWord word input else none

theorem dropWord_eq_some_iff {word input rest : List Char} :
    dropWord word input = some rest ↔ input = word ++ rest := by
  induction word generalizing input with
  | nil => simp [dropWord, eq_comm]
  | cons c word ih =>
      cases input with
      | nil => simp [dropWord]
      | cons d input =>
          by_cases h : c = d
          · simp [dropWord, h, ih]
          · simp [dropWord, h, Ne.symm h]

def word (text : String) : Parser Unit :=
  fun input =>
    match dropWord text.toList input with
    | some rest => .done () rest
    | none => .fail false [⟨input, .part "Tag"⟩]

/-- The longest beginning in a class, which may be empty. -/
def span (accepts : Char → Bool) : Parser (List Char) :=
  fun input => .done (input.takeWhile accepts) (input.dropWhile accepts)

/-- The longest beginning in a class; `name` is the name of the class, which
an empty beginning is reported under. -/
def span1 (name : String) (accepts : Char → Bool) : Parser (List Char) :=
  fun input =>
    match input.takeWhile accepts with
    | [] => .fail false [⟨input, .part name⟩]
    | taken => .done taken (input.dropWhile accepts)

/-- Adds the name of a part of the grammar to the complaints of its reading,
at the place where the part starts. -/
def named (name : String) (part : Parser α) : Parser α :=
  fun input =>
    match part input with
    | .done value rest => .done value rest
    | .fail committed trace => .fail committed (trace ++ [⟨input, .part name⟩])

/-- Makes the failures of a part final. -/
def commit (part : Parser α) : Parser α :=
  fun input =>
    match part input with
    | .done value rest => .done value rest
    | .fail _ trace => .fail true trace

/-- The first branch that does not fail openly.  When all do, the complaints
of the last branch stand, followed by one about the choice. -/
def choice : List (Parser α) → Parser α
  | [] => reject (.part "Alt")
  | [branch] => fun input =>
      match branch input with
      | .fail false trace => .fail false (trace ++ [⟨input, .part "Alt"⟩])
      | reply => reply
  | branch :: others => fun input =>
      match branch input with
      | .fail false _ => choice others input
      | reply => reply

def optional (part : Parser α) : Parser (Option α) :=
  fun input =>
    match part input with
    | .done value rest => .done (some value) rest
    | .fail false _ => .done none input
    | .fail true trace => .fail true trace

/-- Repeats a part until it fails openly, at most `bound` times. -/
def manyUpTo (part : Parser α) : Nat → Parser (List α)
  | 0 => fun input => .done [] input
  | bound + 1 => fun input =>
      match part input with
      | .fail true trace => .fail true trace
      | .fail false _ => .done [] input
      | .done value rest =>
          match manyUpTo part bound rest with
          | .done values rest => .done (value :: values) rest
          | .fail committed trace => .fail committed trace

/-- A part repeated as often as possible.  Every part repeated in this library
takes at least one character, so the length of the input bounds how often. -/
def many (part : Parser α) : Parser (List α) :=
  fun input => manyUpTo part input.length input

/-- Items between separators, at least one.  A separator without an item after
it does not belong to the list. -/
def separated1 (separator : Parser Unit) (item : Parser α) : Parser (List α) := do
  let head ← item
  let tail ← many do
    separator
    item
  pure (head :: tail)

def separated (separator : Parser Unit) (item : Parser α) : Parser (List α) :=
  fun input =>
    match separated1 separator item input with
    | .fail false _ => .done [] input
    | reply => reply

def between (opening : Parser Unit) (part : Parser α) (closing : Parser Unit) : Parser α := do
  opening
  let value ← part
  closing
  pure value

/-- A part whose value has to satisfy a condition. -/
def satisfying (accepts : α → Bool) (part : Parser α) : Parser α :=
  fun input =>
    match part input with
    | .done value rest =>
        if accepts value then .done value rest else .fail false [⟨input, .part "Verify"⟩]
    | .fail committed trace => .fail committed trace

def converted (convert : α → Option β) (part : Parser α) : Parser β :=
  fun input =>
    match part input with
    | .done value rest =>
        match convert value with
        | some result => .done result rest
        | none => .fail false [⟨input, .part "MapRes"⟩]
    | .fail committed trace => .fail committed trace

/-- Succeeds, taking nothing, where a part fails openly. -/
def missing (part : Parser α) : Parser Unit :=
  fun input =>
    match part input with
    | .done _ _ => .fail false [⟨input, .part "Not"⟩]
    | .fail false _ => .done () input
    | .fail true trace => .fail true trace

/-- A part that takes the whole input. -/
def whole (part : Parser α) : Parser α :=
  fun input =>
    match part input with
    | .done value [] => .done value []
    | .done _ rest => .fail false [⟨rest, .part "Eof"⟩]
    | .fail committed trace => .fail committed trace

end Parser

/-- The value of a reading, or an error made of the complaints. -/
def Reply.toExcept {α ε : Type} (error : Trace → ε) : Reply α → Except ε α
  | .done value _ => .ok value
  | .fail _ trace => .error (error trace)

end ReqConflict.Text
