import QueryBindings.Json.Reader
import QueryBindings.Text.Blank

/-!
# Integers in JSON values

Where an integer is wanted, a number with a fraction will do if its value is
whole, and so will a text that writes such a number.  A text may use the digits
of any script and single underscores between digits.
-/

namespace QueryBindings.Json

/-- The white space that may surround a number in a text, plain spaces apart. -/
def isNumberSpace (c : Char) : Bool :=
  ('\t' ≤ c && c ≤ '\r') || ('\x7f' < c && Text.isBlank c)

/-- A character with every decimal digit replaced by its ASCII form. -/
def asciiDigit (c : Char) : Char :=
  match Text.digitValue? c with
  | some n => Char.ofNat ('0'.toNat + n)
  | none => c

/-- Whether every underscore stands between two digits. -/
def underscoresFit (before : Char) : List Char → Bool
  | [] => before != '_'
  | c :: rest =>
      (if c == '_' then Text.isAsciiDigit before
        else before != '_' || Text.isAsciiDigit c) && underscoresFit c rest

def readWholeDigits (text : List Char) : List Char × List Char :=
  (text.takeWhile Text.isAsciiDigit, text.dropWhile Text.isAsciiDigit)

def readFractionDigits : List Char → List Char × List Char
  | '.' :: rest => readWholeDigits rest
  | text => ([], text)

/-- The integer of ASCII digits with a point or an exponent. -/
def decimalInteger? (negative : Bool) (text : List Char) : Option Int :=
  let (whole, rest) := readWholeDigits text
  let (fraction, rest) := readFractionDigits rest
  let exponent := readExponent rest
  let left := (exponent.map (·.2)).getD rest
  if (whole ++ fraction).isEmpty || !left.isEmpty then none
  else
    (Real.decimal ⟨negative, Text.digitsToNat (whole ++ fraction),
      (exponent.map (·.1)).getD 0 - fraction.length⟩).toInt?

def unsignedInteger? (negative : Bool) (text : List Char) : Option Int :=
  if !text.isEmpty && text.all Text.isAsciiDigit then
    let n : Int := Text.digitsToNat text
    some (if negative then -n else n)
  else decimalInteger? negative text

def integerOfText? (text : List Char) : Option Int :=
  if text.contains ' ' then none
  else
    let inner := ((text.dropWhile isNumberSpace).reverse.dropWhile isNumberSpace).reverse
    let digits := inner.map asciiDigit
    if underscoresFit ' ' digits then
      match digits.filter (· != '_') with
      | '-' :: rest => unsignedInteger? true rest
      | '+' :: rest => unsignedInteger? false rest
      | rest => unsignedInteger? false rest
    else none

def Value.integer? : Value → Option Int
  | .int n => some n
  | .real r => r.toInt?
  | .text s => s.toChars?.bind integerOfText?
  | _ => none

end QueryBindings.Json
