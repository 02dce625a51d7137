/-!
# Blanks, words and lines

White space is the Unicode property of that name.  Tuple text is trimmed by
it, the words of a base relation are separated by it, and the lines quoted in
an error message lose it at their end.  A line ends at a line feed; a carriage
return right before that line feed belongs to the end of the line.
-/

namespace ReqConflict.Text

/-- A character with the Unicode property `White_Space`. -/
def isBlank (c : Char) : Bool :=
  let n := c.toNat
  (9 ≤ n && n ≤ 13) || n == 0x20 || n == 0x85 || n == 0xA0 || n == 0x1680 ||
    (0x2000 ≤ n && n ≤ 0x200A) || n == 0x2028 || n == 0x2029 || n == 0x202F ||
    n == 0x205F || n == 0x3000

/-- Every blank of the ASCII class is a blank. -/
theorem isBlank_of_isWhitespace {c : Char} (h : c.isWhitespace) : isBlank c := by
  simp only [Char.isWhitespace, Bool.or_eq_true, decide_eq_true_eq] at h
  rcases h with ((h | h) | h) | h <;> subst h <;> decide

def trimStart (text : List Char) : List Char :=
  text.dropWhile isBlank

def trimEnd (text : List Char) : List Char :=
  (text.reverse.dropWhile isBlank).reverse

def trim (text : List Char) : List Char :=
  trimEnd (trimStart text)

/-- The maximal runs of characters that are not blank.  `word` holds the run
being read, last character first. -/
def wordsFrom (word : List Char) : List Char → List (List Char)
  | [] => if word.isEmpty then [] else [word.reverse]
  | c :: rest =>
      if isBlank c then
        if word.isEmpty then wordsFrom [] rest else word.reverse :: wordsFrom [] rest
      else wordsFrom (c :: word) rest

def words (text : List Char) : List (List Char) :=
  wordsFrom [] text

/-- A finished line, given last character first, without the carriage return
that precedes its line feed. -/
def closeLine : List Char → List Char
  | '\r' :: line => line.reverse
  | line => line.reverse

/-- The lines of a text.  `line` holds the line being read, last character
first. -/
def linesFrom (line : List Char) : List Char → List (List Char)
  | [] => if line.isEmpty then [] else [line.reverse]
  | '\n' :: rest => closeLine line :: linesFrom [] rest
  | c :: rest => linesFrom (c :: line) rest

/-- The lines of a text, without their ends; a final line feed opens no
further line. -/
def lines (text : List Char) : List (List Char) :=
  linesFrom [] text

def byteLength (text : List Char) : Nat :=
  text.foldl (fun bytes c => bytes + c.utf8Size) 0

end ReqConflict.Text
