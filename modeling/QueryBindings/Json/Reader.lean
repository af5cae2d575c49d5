import QueryBindings.Json.Value
import QueryBindings.Text.Digit

/-!
# Reading JSON

JSON texts, and among the numbers the words `NaN`, `Infinity` and `-Infinity` besides.
Readers have two limits: the digits of an integer, and the levels of arrays and objects
that may still be entered.  Going beyond a limit is a fault of its own.

Every reader takes the text that is left and yields what it read with the text
that is left after it.  A fault notes how much text was left where it was found,
which gives its place once the whole text is known.
-/

namespace QueryBindings.Json

/-- What readers have a bound on: the digits of an integer, and how deep values nest. -/
inductive Limit where
  | digits
  | levels
  deriving DecidableEq, Repr

inductive FaultKind where
  | byteOrderMark
  | expectingValue
  | expectingName
  | expectingColon
  | expectingComma
  | unterminatedString
  | controlCharacter
  | invalidEscape
  | invalidUnicodeEscape
  | extraData
  | repeatedKey (key : JsonString)
  /-- An integer with more digits than can be read. -/
  | longInteger (digits : Nat)
  | deepArray
  | deepObject
  deriving DecidableEq, Repr

/-- A fault and how many characters were left at its place. -/
structure ReadFault where
  kind : FaultKind
  left : Nat
  deriving DecidableEq, Repr

abbrev Reading (α : Type) := Except ReadFault (α × List Char)

def failAt {α : Type} (kind : FaultKind) (left : List Char) : Except ReadFault α :=
  .error ⟨kind, left.length⟩

/-! ## White space -/

def isSpace (c : Char) : Bool :=
  c == ' ' || c == '\t' || c == '\n' || c == '\r'

def skipSpace (text : List Char) : List Char :=
  text.dropWhile isSpace

/-! ## Strings -/

def escapeChar? (c : Char) : Option Char :=
  if c == '"' || c == '\\' || c == '/' then some c
  else if c == 'b' then some '\x08'
  else if c == 'f' then some '\x0c'
  else if c == 'n' then some '\n'
  else if c == 'r' then some '\r'
  else if c == 't' then some '\t'
  else none

def hexValue4? (a b c d : Char) : Option Nat := do
  let a ← Text.hexValue? a
  let b ← Text.hexValue? b
  let c ← Text.hexValue? c
  let d ← Text.hexValue? d
  some (((a * 16 + b) * 16 + c) * 16 + d)

def isHighSurrogate (n : Nat) : Bool := 0xD800 ≤ n && n ≤ 0xDBFF

def isLowSurrogate (n : Nat) : Bool := 0xDC00 ≤ n && n ≤ 0xDFFF

def codePoint (n : Nat) : CodePoint :=
  if 0xD800 ≤ n && n ≤ 0xDFFF then .surrogate n else .scalar (Char.ofNat n)

/-- Join each high surrogate with a low one directly after it. -/
def joinSurrogates : JsonString → JsonString
  | .surrogate high :: .surrogate low :: rest =>
      if isHighSurrogate high && isLowSurrogate low then
        .scalar (Char.ofNat (0x10000 + (high - 0xD800) * 0x400 + (low - 0xDC00))) ::
          joinSurrogates rest
      else .surrogate high :: joinSurrogates (.surrogate low :: rest)
  | point :: rest => point :: joinSurrogates rest
  | [] => []

def consPoint (point : CodePoint) (reading : Reading JsonString) : Reading JsonString :=
  reading.map fun (points, rest) => (point :: points, rest)

/--
The code points up to the closing quote.  `opening` is how much text was left at
the opening quote.
-/
def readPoints (opening : Nat) : List Char → Reading JsonString
  | [] => .error ⟨.unterminatedString, opening⟩
  | '"' :: rest => .ok ([], rest)
  | '\\' :: [] => .error ⟨.unterminatedString, opening⟩
  | '\\' :: 'u' :: a :: b :: c :: d :: next :: rest =>
      match hexValue4? a b c d with
      | some n => consPoint (codePoint n) (readPoints opening (next :: rest))
      | none => .error ⟨.invalidUnicodeEscape, rest.length + 6⟩
  | '\\' :: 'u' :: short => .error ⟨.invalidUnicodeEscape, short.length + 1⟩
  | '\\' :: c :: rest =>
      match escapeChar? c with
      | some escaped => consPoint (.scalar escaped) (readPoints opening rest)
      | none => .error ⟨.invalidEscape, rest.length + 2⟩
  | c :: rest =>
      if c < ' ' then .error ⟨.controlCharacter, rest.length + 1⟩
      else consPoint (.scalar c) (readPoints opening rest)

def readString (rest : List Char) : Reading JsonString :=
  (readPoints (rest.length + 1) rest).map fun (points, rest) => (joinSurrogates points, rest)

/-! ## Numbers -/

def readSign : List Char → Bool × List Char
  | '-' :: rest => (true, rest)
  | text => (false, text)

/-- The digits of an integer: a single zero, or digits that do not begin with one. -/
def readWhole : List Char → Option (List Char × List Char)
  | '0' :: rest => some (['0'], rest)
  | text =>
      let digits := text.takeWhile Text.isAsciiDigit
      if digits.isEmpty then none else some (digits, text.dropWhile Text.isAsciiDigit)

/-- The digits of a fraction, if there is a point with a digit after it. -/
def readFraction (text : List Char) : Option (List Char × List Char) :=
  match text with
  | '.' :: rest =>
      let digits := rest.takeWhile Text.isAsciiDigit
      if digits.isEmpty then none else some (digits, rest.dropWhile Text.isAsciiDigit)
  | _ => none

def readExponentSign : List Char → Bool × List Char
  | '-' :: rest => (true, rest)
  | '+' :: rest => (false, rest)
  | text => (false, text)

def readExponent (text : List Char) : Option (Int × List Char) :=
  match text with
  | c :: rest =>
      if c == 'e' || c == 'E' then
        let (negative, rest) := readExponentSign rest
        let digits := rest.takeWhile Text.isAsciiDigit
        if digits.isEmpty then none
        else
          let n : Int := Text.digitsToNat digits
          some (if negative then -n else n, rest.dropWhile Text.isAsciiDigit)
      else none
  | [] => none

def mostIntegerDigits : Nat := 4300

/-- A number, read as far as it goes. -/
def readNumber (text : List Char) : Reading Value :=
  let (negative, unsigned) := readSign text
  match readWhole unsigned with
  | none => failAt .expectingValue text
  | some (whole, rest) =>
      let fraction := readFraction rest
      let rest := (fraction.map (·.2)).getD rest
      let exponent := readExponent rest
      let rest := (exponent.map (·.2)).getD rest
      match fraction, exponent with
      | none, none =>
          if mostIntegerDigits < whole.length then failAt (.longInteger whole.length) text
          else
            let n : Int := Text.digitsToNat whole
            .ok (.int (if negative then -n else n), rest)
      | _, _ =>
          let digits := (fraction.map (·.1)).getD []
          .ok (.real (.decimal
            ⟨negative, Text.digitsToNat (whole ++ digits),
              (exponent.map (·.1)).getD 0 - digits.length⟩), rest)

/-! ## Values -/

def wordValues : List (List Char × Value) :=
  [("null".toList, .null), ("true".toList, .bool true), ("false".toList, .bool false),
    ("NaN".toList, .real .notANumber), ("Infinity".toList, .real (.infinite false)),
    ("-Infinity".toList, .real (.infinite true))]

def readScalar (text : List Char) : Reading Value :=
  match wordValues.find? fun word => word.1.isPrefixOf text with
  | some word => .ok (word.2, text.drop word.1.length)
  | none => readNumber text

inductive RepeatedKeys where
  /-- The key keeps its first place and has its last value. -/
  | keepLast
  | reject
  deriving DecidableEq, Repr

def closeObject (keys : RepeatedKeys) (members : Members) (rest : List Char) :
    Reading Value :=
  match keys with
  | .keepLast => .ok (.object members.keepLast, rest)
  | .reject =>
      match Members.repeated? [] members with
      | some key => failAt (.repeatedKey key) rest
      | none => .ok (.object members, rest)

mutual

/-- A value; so many levels are left for arrays and objects. -/
def readValue (keys : RepeatedKeys) : (fuel levels : Nat) → List Char → Reading Value
  | 0, _, text => failAt .expectingValue text
  | fuel + 1, levels, text =>
      match text, levels with
      | '"' :: rest, _ => (readString rest).map fun (s, rest) => (.text s, rest)
      | '[' :: rest, 0 => failAt .deepArray ('[' :: rest)
      | '[' :: rest, levels + 1 =>
          match skipSpace rest with
          | ']' :: rest => .ok (.array [], rest)
          | rest =>
              (readItems keys fuel levels rest).map fun (items, rest) => (.array items, rest)
      | '\x7b' :: rest, 0 => failAt .deepObject ('\x7b' :: rest)
      | '\x7b' :: rest, levels + 1 =>
          match skipSpace rest with
          | '\x7d' :: rest => .ok (.object [], rest)
          | rest =>
              match readMembers keys fuel levels rest with
              | .error fault => .error fault
              | .ok (members, rest) => closeObject keys members rest
      | text, _ => readScalar text

def readItems (keys : RepeatedKeys) : (fuel levels : Nat) → List Char → Reading (List Value)
  | 0, _, text => failAt .expectingValue text
  | fuel + 1, levels, text =>
      match readValue keys fuel levels text with
      | .error fault => .error fault
      | .ok (item, rest) =>
          match skipSpace rest with
          | ']' :: rest => .ok ([item], rest)
          | ',' :: rest =>
              (readItems keys fuel levels (skipSpace rest)).map fun (items, rest) =>
                (item :: items, rest)
          | rest => failAt .expectingComma rest

def readMembers (keys : RepeatedKeys) : (fuel levels : Nat) → List Char → Reading Members
  | 0, _, text => failAt .expectingName text
  | fuel + 1, levels, text =>
      match text with
      | '"' :: rest =>
          match readString rest with
          | .error fault => .error fault
          | .ok (key, rest) =>
              match skipSpace rest with
              | ':' :: rest =>
                  match readValue keys fuel levels (skipSpace rest) with
                  | .error fault => .error fault
                  | .ok (value, rest) =>
                      match skipSpace rest with
                      | '\x7d' :: rest => .ok ([(key, value)], rest)
                      | ',' :: rest =>
                          (readMembers keys fuel levels (skipSpace rest)).map
                            fun (members, rest) => ((key, value) :: members, rest)
                      | rest => failAt .expectingComma rest
              | rest => failAt .expectingColon rest
      | text => failAt .expectingName text

end

/--
How many arrays and objects can be open at once in a reader that the command calls.  The
stack bounds them, so a reader that is called from further inside a program has fewer.
-/
def mostLevels : Nat := 991

def readText (keys : RepeatedKeys) (text : List Char) (levels : Nat := mostLevels) :
    Except ReadFault Value :=
  if text.head? = some '\uFEFF' then failAt .byteOrderMark text
  else
    match readValue keys (text.length + 1) levels (skipSpace text) with
    | .error fault => .error fault
    | .ok (value, rest) =>
        match skipSpace rest with
        | [] => .ok value
        | rest => failAt .extraData rest

/-! ## Faults as messages -/

structure Place where
  /-- Lines and columns count from one, the offset from zero. -/
  line : Nat
  column : Nat
  offset : Nat
  deriving DecidableEq, Repr

def Place.of (text : List Char) (left : Nat) : Place :=
  let before := text.take (text.length - left)
  ⟨before.count '\n' + 1, (before.reverse.takeWhile (· != '\n')).length + 1, before.length⟩

namespace FaultKind

def message : FaultKind → String
  | byteOrderMark => "Unexpected UTF-8 BOM (decode using utf-8-sig)"
  | expectingValue => "Expecting value"
  | expectingName => "Expecting property name enclosed in double quotes"
  | expectingColon => "Expecting ':' delimiter"
  | expectingComma => "Expecting ',' delimiter"
  | unterminatedString => "Unterminated string starting at"
  | controlCharacter => "Invalid control character at"
  | invalidEscape => "Invalid \\escape"
  | invalidUnicodeEscape => "Invalid \\uXXXX escape"
  | extraData => "Extra data"
  | repeatedKey key => "Failed to load JSON: duplicate key " ++ key.shown ++ "."
  | longInteger digits =>
      "Exceeds the limit (" ++ toString mostIntegerDigits ++
        " digits) for integer string conversion: value has " ++ toString digits ++
        " digits; use sys.set_int_max_str_digits() to increase the limit"
  | deepArray =>
      "maximum recursion depth exceeded while decoding a JSON array from a unicode string"
  | deepObject =>
      "maximum recursion depth exceeded while decoding a JSON object from a unicode string"

def hasPlace : FaultKind → Bool
  | repeatedKey _ | longInteger _ | deepArray | deepObject => false
  | _ => true

/-- The limit that a text goes beyond, if that is what is wrong with it. -/
def limit? : FaultKind → Option Limit
  | longInteger _ => some .digits
  | deepArray | deepObject => some .levels
  | _ => none

end FaultKind

namespace ReadFault

def message (text : List Char) (fault : ReadFault) : String :=
  if fault.kind.hasPlace then
    let place := Place.of text fault.left
    fault.kind.message ++ ": line " ++ toString place.line ++ " column " ++
      toString place.column ++ " (char " ++ toString place.offset ++ ")"
  else fault.kind.message

end ReadFault

end QueryBindings.Json
