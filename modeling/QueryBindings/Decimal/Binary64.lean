/-!
# Decimals and 64-bit binary numbers

The value of a decimal among the numbers m · 2^q with at most 53 bits in m, by
exact arithmetic on natural numbers: the nearest one, and of two equally near
ones that with even m.
-/

namespace QueryBindings

/-- The number ± mantissa · 10 ^ exponent. -/
structure Decimal where
  negative : Bool
  mantissa : Nat
  exponent : Int
  deriving DecidableEq, Repr

/-- The absolute value mantissa · 2 ^ exponent. -/
structure Magnitude where
  mantissa : Nat
  exponent : Int
  deriving DecidableEq, Repr

namespace Decimal

/-- The quotient rounded to the nearest number; a half goes to the even neighbour. -/
def roundDiv (num den : Nat) : Nat :=
  let q := num / den
  let r := num % den
  if 2 * r < den then q
  else if den < 2 * r then q + 1
  else if q % 2 = 0 then q
  else q + 1

def ratio (n base : Nat) (e : Int) : Nat × Nat :=
  if 0 ≤ e then (n * Nat.pow base e.toNat, 1) else (n, Nat.pow base (-e).toNat)

def digitCount (n : Nat) : Nat :=
  (Nat.toDigits 10 n).length

end Decimal

namespace Magnitude

def zero : Magnitude := ⟨0, -1074⟩

/-- The least exponent, that of the subnormal numbers. -/
def leastExponent : Int := -1074

/-- The greatest exponent of a finite number. -/
def greatestExponent : Int := 971

/-- Numerator and denominator of num / den · 2 ^ (-q). -/
def scaled (num den : Nat) (q : Int) : Nat × Nat :=
  if 0 ≤ q then (num, den * Nat.pow 2 q.toNat) else (num * Nat.pow 2 (-q).toNat, den)

/-- The exponent at which num / den has 53 bits before the point, if it is in range. -/
def exponentFor (num den : Nat) : Int :=
  let estimate : Int := (Nat.log2 num : Int) - (Nat.log2 den : Int) - 53
  let (n, d) := scaled num den estimate
  max leastExponent (if n / d < Nat.pow 2 53 then estimate else estimate + 1)

/-- The number nearest to num / den, unless it is beyond the greatest finite one. -/
def nearest (num den : Nat) : Option Magnitude :=
  if num = 0 then some zero
  else
    let q := exponentFor num den
    let (n, d) := scaled num den q
    let m := Decimal.roundDiv n d
    let rounded : Magnitude := if m = Nat.pow 2 53 then ⟨Nat.pow 2 52, q + 1⟩ else ⟨m, q⟩
    if greatestExponent < rounded.exponent then none else some rounded

def toNat? (value : Magnitude) : Option Nat :=
  if 0 ≤ value.exponent then some (value.mantissa * Nat.pow 2 value.exponent.toNat)
  else
    let unit := Nat.pow 2 (-value.exponent).toNat
    if value.mantissa % unit = 0 then some (value.mantissa / unit) else none

end Magnitude

namespace Decimal

/-- Decimals with a first digit beyond this place are greater than every finite number. -/
def hugePlace : Int := 310

/-- Decimals with a first digit below this place are nearest to zero. -/
def tinyPlace : Int := -330

/-- The binary number nearest to the absolute value, unless it is beyond them all. -/
def magnitude (d : Decimal) : Option Magnitude :=
  let place := (digitCount d.mantissa : Int) + d.exponent
  if d.mantissa = 0 then some Magnitude.zero
  else if hugePlace < place then none
  else if place < tinyPlace then some Magnitude.zero
  else
    let (num, den) := ratio d.mantissa 10 d.exponent
    Magnitude.nearest num den

end Decimal

end QueryBindings
