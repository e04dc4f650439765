set_option autoImplicit false

namespace PlanChain.Word

def int64? (value : Int) : Option Int64 :=
  if Int64.minValue.toInt ≤ value ∧ value ≤ Int64.maxValue.toInt then some (Int64.ofInt value)
  else none

def uint64? (value : Int) : Option UInt64 :=
  if 0 ≤ value ∧ value < UInt64.size then some (UInt64.ofNat value.toNat) else none

def uint32? (value : Int) : Option UInt32 :=
  if 0 ≤ value ∧ value < UInt32.size then some (UInt32.ofNat value.toNat) else none

def greatest : UInt64 := UInt64.ofNat (UInt64.size - 1)

def saturatingMul (a b : UInt64) : UInt64 :=
  if a.toNat * b.toNat < UInt64.size then a * b else greatest

def saturatingPow2 (exponent : UInt32) : UInt64 :=
  if exponent < 64 then 1 <<< exponent.toUInt64 else greatest

end PlanChain.Word
