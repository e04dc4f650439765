/-! Numbers in the IEEE 754 format binary64, kept as their bits. Arithmetic is exact on natural numbers and
rounds once, to the nearest number of the format, a tie to the even significand. -/

set_option autoImplicit false

namespace PlanChain

structure Binary64 where
  bits : UInt64
deriving DecidableEq, Inhabited

namespace Binary64

def signBit : Nat := Nat.pow 2 63

def fractionSize : Nat := Nat.pow 2 52

def infinity : Nat := 2047 * fractionSize

def quietNaN : Nat := infinity + Nat.pow 2 51

def isNegative (x : Binary64) : Bool := signBit ≤ x.bits.toNat

def magnitude (x : Binary64) : Nat := x.bits.toNat % signBit

def isFinite (x : Binary64) : Bool := x.magnitude < infinity

-- The magnitude counted in units of `2 ^ -1074`, the least positive number.
def unitsOf (magnitude : Nat) : Nat :=
  let exponent := magnitude / fractionSize
  let fraction := magnitude % fractionSize
  if exponent = 0 then fraction else (fraction + fractionSize) * Nat.pow 2 (exponent - 1)

def units (x : Binary64) : Nat := unitsOf x.magnitude

def unitsPerOne : Nat := Nat.pow 2 1074

def ofParts (negative : Bool) (magnitude : Nat) : Binary64 :=
  ⟨UInt64.ofNat (magnitude + if negative then signBit else 0)⟩

def roundDiv (numerator denominator : Nat) : Nat :=
  let quotient := numerator / denominator
  let twice := 2 * (numerator % denominator)
  if twice < denominator then quotient
  else if denominator < twice then quotient + 1
  else quotient + quotient % 2

-- The magnitude nearest to the quotient of two naturals. The significand gets 53 bits, or fewer when its
-- last place would lie below one unit; a carry out of the significand raises the exponent.
def magnitudeOfRatio (numerator denominator : Nat) : Nat :=
  let scaled := numerator * unitsPerOne
  let estimate := Nat.log2 (scaled / denominator) - 52
  let rounded := roundDiv scaled (denominator * Nat.pow 2 estimate)
  min infinity (estimate * fractionSize + rounded)

def ofRatio (negative : Bool) (numerator denominator : Nat) : Binary64 :=
  ofParts negative (magnitudeOfRatio numerator denominator)

def ofNat (n : Nat) : Binary64 := ofRatio false n 1

def ofInt (value : Int) : Binary64 := ofRatio (value < 0) value.natAbs 1

def zero : Binary64 := ofParts false 0

def signedUnits (x : Binary64) : Int := if x.isNegative then -x.units else x.units

def toInt? (x : Binary64) : Option Int :=
  if x.isFinite ∧ x.units % unitsPerOne = 0 then
    let whole : Int := x.units / unitsPerOne
    some (if x.isNegative then -whole else whole)
  else none

def mul (x y : Binary64) : Binary64 :=
  ofRatio (x.isNegative != y.isNegative) (x.units * y.units) (unitsPerOne * unitsPerOne)

def div (x y : Binary64) : Binary64 :=
  ofRatio (x.isNegative != y.isNegative) x.units y.units

-- The sum of two finite numbers, or of an infinite one and a finite one. A sum that is exactly zero is
-- negative only when both terms are.
def add (x y : Binary64) : Binary64 :=
  if !x.isFinite then x
  else if !y.isFinite then y
  else
    let total := x.signedUnits + y.signedUnits
    ofRatio (if total = 0 then x.isNegative && y.isNegative else total < 0) total.natAbs unitsPerOne

def neg (x : Binary64) : Binary64 := ofParts (!x.isNegative) x.magnitude

def pow10 (exponent : Nat) : Binary64 := ofRatio false (Nat.pow 10 exponent) 1

end Binary64

end PlanChain
