import QueryBindings.Text.Utf8

/-!
# Base64

Bytes as base64 text and back.  Writing uses the standard alphabet with
padding.  Reading is lenient: both alphabets are understood, characters outside
them are passed over, and missing padding is made up for.
-/

namespace QueryBindings

namespace Base64

open Text (Bytes)

/-- The digit of the standard alphabet for a value below 64. -/
def digit (n : Nat) : Char :=
  if n < 26 then Char.ofNat ('A'.toNat + n)
  else if n < 52 then Char.ofNat ('a'.toNat + (n - 26))
  else if n < 62 then Char.ofNat ('0'.toNat + (n - 52))
  else if n = 62 then '+'
  else '/'

/-- The value of a digit; `-` and `_` are the digits `+` and `/` of the second alphabet. -/
def value? (c : Char) : Option Nat :=
  if 'A' ≤ c ∧ c ≤ 'Z' then some (c.toNat - 'A'.toNat)
  else if 'a' ≤ c ∧ c ≤ 'z' then some (c.toNat - 'a'.toNat + 26)
  else if '0' ≤ c ∧ c ≤ '9' then some (c.toNat - '0'.toNat + 52)
  else if c = '+' ∨ c = '-' then some 62
  else if c = '/' ∨ c = '_' then some 63
  else none

/-- Three bytes make four digits; a shorter rest is filled up with padding. -/
def encode : Bytes → List Char
  | [] => []
  | [a] => [digit (a.toNat / 4), digit (a.toNat % 4 * 16), '=', '=']
  | [a, b] =>
      [digit (a.toNat / 4), digit (a.toNat % 4 * 16 + b.toNat / 16),
        digit (b.toNat % 16 * 4), '=']
  | a :: b :: c :: rest =>
      digit (a.toNat / 4) :: digit (a.toNat % 4 * 16 + b.toNat / 16) ::
        digit (b.toNat % 16 * 4 + c.toNat / 64) :: digit (c.toNat % 64) :: encode rest

/-- The digits read in the current group of four. -/
inductive Group where
  | empty
  | one (a : Nat)
  | two (a b : Nat)
  | three (a b c : Nat)
  deriving DecidableEq, Repr

namespace Group

def size : Group → Nat
  | empty => 0
  | one _ => 1
  | two _ _ => 2
  | three _ _ _ => 3

def bytes : Group → Bytes
  | empty | one _ => []
  | two a b => [UInt8.ofNat (4 * a + b / 16)]
  | three a b c => [UInt8.ofNat (4 * a + b / 16), UInt8.ofNat (b % 16 * 16 + c / 4)]

end Group

def groupBytes (a b c d : Nat) : Bytes :=
  [UInt8.ofNat (4 * a + b / 16), UInt8.ofNat (b % 16 * 16 + c / 4),
    UInt8.ofNat (c % 4 * 64 + d)]

/--
Read digits into groups.  A padding character counts only when a group holds at
least two digits; once digits and padding make four, the text is over and what
follows is not read.  A group left open at the end of the text is an error.
-/
def decodeFrom : Group → Nat → List Char → Option Bytes
  | group, _, [] => if group.size = 0 then some [] else none
  | group, padding, c :: rest =>
      if c = '=' then
        if group.size < 2 then decodeFrom group padding rest
        else if 4 ≤ group.size + padding + 1 then some group.bytes
        else decodeFrom group (padding + 1) rest
      else
        match value? c with
        | none => decodeFrom group padding rest
        | some d =>
            match group with
            | .empty => decodeFrom (.one d) 0 rest
            | .one a => decodeFrom (.two a d) 0 rest
            | .two a b => decodeFrom (.three a b d) 0 rest
            | .three a b c => (decodeFrom .empty 0 rest).map (groupBytes a b c d ++ ·)

/-- The padding that takes a text of so many bytes to a multiple of four, never none. -/
def padding (size : Nat) : List Char :=
  List.replicate (4 - size % 4) '='

/-- The bytes of a base64 text, with or without its padding. -/
def decode (s : String) : Option Bytes :=
  decodeFrom .empty 0 (s.toList ++ padding s.utf8ByteSize)

end Base64

end QueryBindings
