import QueryBindings.Decimal.Binary64

/-!
# Shortest decimals

The decimal with the fewest digits that reads back as a given binary number and,
among those, the one nearest to it.  For one digit, two digits and so on, the two
neighbours of the number on that decimal grid are tried in exact arithmetic.
-/

namespace QueryBindings

namespace Magnitude

/-- The number of digits before the point; zero or less if the first digit is after it. -/
def place (num den : Nat) : Int :=
  if den ≤ num then (Decimal.digitCount (num / den) : Int)
  else
    let above := (den + num - 1) / num
    1 - (if above ≤ 1 then 0 else (Decimal.digitCount (above - 1) : Int))

/-- Whether s · 10 ^ e reads back as the number. -/
def readsBack (value : Magnitude) (s : Nat) (e : Int) : Bool :=
  let (num, den) := Decimal.ratio s 10 e
  nearest num den == some value

/-- A decimal on the grid of 10 ^ e that reads back, the nearer one if there are two. -/
def onGrid (value : Magnitude) (num den : Nat) (e : Int) : Option Nat :=
  let (n, d) :=
    if 0 ≤ e then (num, den * Nat.pow 10 e.toNat) else (num * Nat.pow 10 (-e).toNat, den)
  let s := n / d
  match value.readsBack s e, value.readsBack (s + 1) e with
  | true, false => some s
  | false, true => some (s + 1)
  | true, true => some (Decimal.roundDiv n d)
  | false, false => none

/-- Try grids of more and more digits; seventeen always suffice. -/
def shortestFrom (value : Magnitude) (num den : Nat) (e : Int) : Nat → Nat × Int
  | 0 => (num / den, 0)
  | tries + 1 =>
      match value.onGrid num den e with
      | some s => (s, e)
      | none => shortestFrom value num den (e - 1) tries

/-- The shortest decimal s · 10 ^ e that reads back as the number. -/
def shortest (value : Magnitude) : Nat × Int :=
  let (num, den) := Decimal.ratio value.mantissa 2 value.exponent
  if num = 0 then (0, 0) else shortestFrom value num den (place num den - 1) 17

end Magnitude

structure NumberLayout where
  /-- Positional notation is used when this many digits or fewer stand before the point. -/
  mostWholeDigits : Int
  /-- Positional notation is used when fewer zeros than this follow the point. -/
  mostLeadingZeros : Int
  exponentWidth : Nat

namespace NumberLayout

/--
Up to sixteen digits before the point and up to three zeros after it, always a
fraction in positional notation, exponents of two digits or more.
-/
def standard : NumberLayout := ⟨16, 4, 2⟩

def stripZeros (digits : List Char) : List Char :=
  (digits.reverse.dropWhile (· == '0')).reverse

def print (layout : NumberLayout) (digits : List Char) (place : Int) : List Char :=
  if -layout.mostLeadingZeros < place ∧ place ≤ layout.mostWholeDigits then
    if place ≤ 0 then
      '0' :: '.' :: List.replicate (-place).toNat '0' ++ digits
    else
      let whole := digits.take place.toNat
      let rest := digits.drop place.toNat
      whole ++ List.replicate (place.toNat - whole.length) '0' ++ '.' ::
        (if rest.isEmpty then ['0'] else rest)
  else
    let exponent := place - 1
    let shown := Nat.toDigits 10 exponent.natAbs
    digits.take 1 ++ (if digits.length ≤ 1 then [] else '.' :: digits.drop 1) ++
      'e' :: (if exponent < 0 then '-' else '+') ::
        (List.replicate (layout.exponentWidth - shown.length) '0' ++ shown)

end NumberLayout

namespace Magnitude

def print (value : Magnitude) : List Char :=
  let (s, e) := value.shortest
  if s = 0 then ['0', '.', '0']
  else
    let digits := Nat.toDigits 10 s
    NumberLayout.standard.print (NumberLayout.stripZeros digits) ((digits.length : Int) + e)

end Magnitude

end QueryBindings
