import ReqConflict.Binary64

/-!
# Numbers in YAML

Plain scalars of the core schema denote integers and floating-point numbers.
Integers are decimal, hexadecimal, octal or binary, and have 64 bits; longer
decimals are refused up to 128 bits and read as floating-point numbers beyond.
A decimal with a leading zero is no number at all.
-/

namespace ReqConflict.Yaml

inductive Number where
  | integer (value : Int)
  | float (value : Binary64)
  | infinity (negative : Bool)
  | notANumber
deriving Repr

namespace Number

/-- Equality of values: both zeros are equal, and the number that is none
equals itself. -/
def same : Number → Number → Bool
  | integer a, integer b => a == b
  | float a, float b => a == b || (a.significand == 0 && b.significand == 0)
  | infinity a, infinity b => a == b
  | notANumber, notANumber => true
  | _, _ => false

/-- The value of a digit in bases up to 36. -/
def digitValue (c : Char) : Nat :=
  if c.isDigit then c.toNat - '0'.toNat
  else if c.isLower then c.toNat - 'a'.toNat + 10
  else if c.isUpper then c.toNat - 'A'.toNat + 10
  else 36

/-- A numeral that consists of one digit or more. -/
def natural (base : Nat) (text : List Char) : Option Nat :=
  if text.isEmpty || !text.all (fun c => digitValue c < base) then none
  else some (text.foldl (fun n c => n * base + digitValue c) 0)

/-- A numeral that may follow a mark of its base. -/
def basedNatural : List Char → Option Nat
  | '0' :: 'x' :: digits => natural 16 digits
  | '0' :: 'o' :: digits => natural 8 digits
  | '0' :: 'b' :: digits => natural 2 digits
  | _ => none

/-- Digits after a leading zero; such a text is a string. -/
def hasLeadingZero (text : List Char) : Bool :=
  let unsigned :=
    match text with
    | '-' :: rest => rest
    | '+' :: rest => rest
    | _ => text
  match unsigned with
  | '0' :: c :: rest => (c :: rest).all Char.isDigit
  | _ => false

def decimalNatural (text : List Char) : Option Nat :=
  if hasLeadingZero text then none else natural 10 text

/-- The integer that a text denotes, of any size. -/
def integer? : List Char → Option Int
  | '-' :: text =>
      match (basedNatural text).orElse fun _ => decimalNatural text with
      | some n => some (-n)
      | none => none
  | '+' :: text =>
      ((basedNatural text).orElse fun _ => decimalNatural text).map Int.ofNat
  | text => ((basedNatural text).orElse fun _ => decimalNatural text).map Int.ofNat

def exponent? : List Char → Option Int
  | '-' :: digits => (natural 10 digits).map fun n => -(n : Int)
  | '+' :: digits => (natural 10 digits).map Int.ofNat
  | digits => (natural 10 digits).map Int.ofNat

def decimalOf (whole fraction : List Char) (exponent : Int) : Option Decimal :=
  if whole.isEmpty && fraction.isEmpty then none
  else
    (natural 10 ('0' :: whole ++ fraction)).map fun digits =>
      ⟨digits, exponent - fraction.length⟩

/-- An unsigned decimal, with a point and an exponent or without. -/
def decimal? (text : List Char) : Option Decimal :=
  let isMark := fun c => c == 'e' || c == 'E'
  let mantissa := text.takeWhile fun c => !isMark c
  let exponent :=
    match text.dropWhile fun c => !isMark c with
    | [] => some 0
    | _ :: digits => exponent? digits
  let whole := mantissa.takeWhile (· != '.')
  let fraction := (mantissa.dropWhile (· != '.')).drop 1
  match exponent with
  | none => none
  | some exponent => decimalOf whole fraction exponent

/-- The floating-point number that a text denotes.  A decimal beyond all
numbers denotes none. -/
def float? (text : List Char) : Option Number :=
  let (negative, unsigned) :=
    match text with
    | '-' :: rest => (true, rest)
    | '+' :: rest => (false, rest)
    | _ => (false, text)
  if [".inf", ".Inf", ".INF"].contains (String.ofList unsigned) then some (infinity negative)
  else if [".nan", ".NaN", ".NAN"].contains (String.ofList text) then some notANumber
  else
    match decimal? unsigned with
    | none => none
    | some decimal => (Binary64.ofDecimal negative decimal).map float

/-- Writes a decimal: positional up to sixteen digits before the point and
four zeros after it, with an exponent beyond. -/
def layout (decimal : Decimal) : List Char :=
  let digits := Nat.toDigits 10 decimal.digits
  let point := decimal.order
  let zeros := fun (n : Int) => List.replicate n.toNat '0'
  if 0 ≤ decimal.exponent ∧ point ≤ 16 then digits ++ zeros decimal.exponent ++ ['.', '0']
  else if 0 < point ∧ point ≤ 16 then
    digits.take point.toNat ++ '.' :: digits.drop point.toNat
  else if -5 < point ∧ point ≤ 0 then '0' :: '.' :: zeros (-point) ++ digits
  else
    let exponent := (toString (point - 1)).toList
    match digits with
    | [digit] => digit :: 'e' :: exponent
    | digit :: fraction => digit :: '.' :: fraction ++ 'e' :: exponent
    | [] => []

def toText : Number → String
  | integer value => toString value
  | float value =>
      let sign := if value.negative then ['-'] else []
      let unsigned := if value.significand = 0 then ['0', '.', '0'] else layout value.shortest
      String.ofList (sign ++ unsigned)
  | infinity negative => if negative then "-.inf" else ".inf"
  | notANumber => ".nan"

end Number

end ReqConflict.Yaml
