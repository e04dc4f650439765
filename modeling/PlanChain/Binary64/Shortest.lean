import PlanChain.Binary64.Basic
import PlanChain.Text.Digits

/-! The shortest decimal text of a finite binary64 number: the fewest digits that read back as the same
number, and of those the nearest to it. -/

set_option autoImplicit false

namespace PlanChain.Binary64

structure Scientific where
  digits : Nat
  exponent : Int
deriving DecidableEq

-- What rounds to one magnitude, as bounds in quarters of a unit; the bounds belong to it when the
-- significand is even.
structure Interval where
  low : Nat
  value : Nat
  high : Nat
  closed : Bool

def interval (magnitude : Nat) : Interval where
  low := 2 * (unitsOf (magnitude - 1) + unitsOf magnitude)
  value := 4 * unitsOf magnitude
  high := 2 * (unitsOf magnitude + unitsOf (magnitude + 1))
  closed := magnitude % 2 = 0

namespace Interval

def contains (bounds : Interval) (numerator denominator : Nat) : Bool :=
  if bounds.closed then
    bounds.low * denominator ≤ numerator && numerator ≤ bounds.high * denominator
  else bounds.low * denominator < numerator && numerator < bounds.high * denominator

end Interval

def digitCount (n : Nat) : Nat := (Text.decimal n).length

def leadingPower (numerator denominator : Nat) : Int :=
  let guess : Int := digitCount numerator - digitCount denominator
  let reaches : Bool :=
    if 0 ≤ guess then denominator * Nat.pow 10 guess.toNat ≤ numerator
    else denominator ≤ numerator * Nat.pow 10 (-guess).toNat
  if reaches then guess else guess - 1

-- Of the two neighbours of a value on the grid `10 ^ exponent`, the nearer one inside its interval; a tie
-- goes to the even one.
def onGrid? (bounds : Interval) (exponent : Int) : Option Nat :=
  let quarters := 4 * unitsPerOne
  let up := if 0 ≤ exponent then quarters * Nat.pow 10 exponent.toNat else quarters
  let down := if 0 ≤ exponent then 1 else Nat.pow 10 (-exponent).toNat
  let scaled := bounds.value * down
  let below := scaled / up
  let above := below + 1
  let fits (digits : Nat) : Bool := 0 < digits && bounds.contains (digits * up) down
  let nearest := roundDiv scaled up
  if fits nearest then some nearest
  else if fits below then some below
  else if fits above then some above
  else none

def searchGrids (bounds : Interval) : (grids : Nat) → (exponent : Int) → Scientific
  | 0, exponent => ⟨roundDiv bounds.value (4 * unitsPerOne), exponent⟩
  | grids + 1, exponent =>
    match onGrid? bounds exponent with
    | some digits => ⟨digits, exponent⟩
    | none => searchGrids bounds grids (exponent - 1)

-- The shortest decimal of a positive magnitude. Seventeen digits always suffice.
def shortest (magnitude : Nat) : Scientific :=
  let bounds := interval magnitude
  searchGrids bounds 18 (leadingPower bounds.value (4 * unitsPerOne) + 1)

end PlanChain.Binary64
