import PlanChain.Json.Basic
import PlanChain.Text.Digits
import PlanChain.Word

/-! Numerals of JSON. A numeral without fraction and exponent is an integer when it fits 64 bits, signed if
negative; every other numeral is floating-point. A floating-point numeral keeps the leading digits that fit 64
bits as its significand, and its value is the significand times or divided by a power of ten, each of the
three rounded to binary64. It is refused when that overflows. -/

set_option autoImplicit false

namespace PlanChain.Number

open Text

def significandLimit : Nat := UInt64.size - 1

def exponentLimit : Nat := Nat.pow 2 31 - 1

def absorb (significand : Nat) : List Nat → Nat × List Nat
  | [] => (significand, [])
  | digit :: rest =>
    if significand * 10 + digit ≤ significandLimit then absorb (significand * 10 + digit) rest
    else (significand, digit :: rest)

-- Divides by powers of ten that binary64 can hold, at most `10 ^ 308` at a time.
def scaleDown (value : Binary64) (exponent : Nat) : Binary64 :=
  if exponent ≤ 308 then value.div (.pow10 exponent)
  else if value.magnitude = 0 then value
  else scaleDown (value.div (.pow10 308)) (exponent - 308)
termination_by exponent

def scale? (significand : Nat) (exponent : Int) : Option Binary64 :=
  let value := Binary64.ofNat significand
  if exponent < 0 then some (scaleDown value (-exponent).toNat)
  else if exponent ≤ 308 then
    let scaled := value.mul (.pow10 exponent.toNat)
    if scaled.isFinite then some scaled else none
  else if value.magnitude = 0 then some value
  else none

structure Parts where
  negative : Bool
  whole : List Nat
  fraction : List Nat
  exponent : Option (Bool × List Nat)

namespace Parts

def significand (parts : Parts) : Nat × Int :=
  let (whole, dropped) := absorb 0 parts.whole
  let (total, left) := absorb whole parts.fraction
  (total, dropped.length - (parts.fraction.length - left.length : Nat))

-- The magnitude as a binary64 number. A power of ten beyond its limit makes the number zero, or too great
-- unless the significand is zero.
def magnitude? (parts : Parts) : Option Binary64 :=
  let (significand, open_) := parts.significand
  match parts.exponent with
  | none => scale? significand open_
  | some (negative, digits) =>
    let power := ofDigits 10 digits
    if exponentLimit < power then
      if significand ≠ 0 ∧ ¬negative then none else some .zero
    else scale? significand (open_ + if negative then -(power : Int) else power)

def number? (parts : Parts) : Option Number :=
  let value := ofDigits 10 parts.whole
  let isInteger := parts.fraction.isEmpty ∧ parts.exponent.isNone
  if isInteger ∧ ¬parts.negative ∧ value < UInt64.size then some (.int value)
  else if isInteger ∧ parts.negative ∧ 0 < value ∧ (Word.int64? (-value)).isSome then
    some (.int (-value))
  else
    parts.magnitude?.map fun magnitude =>
      .float (if parts.negative then magnitude.neg else magnitude)

end Parts

end PlanChain.Number
