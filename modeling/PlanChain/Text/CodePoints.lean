set_option autoImplicit false

namespace PlanChain.Text

structure Range where
  first : Nat
  last : Nat

namespace Range

def contains (range : Range) (c : Char) : Bool :=
  range.first ≤ c.toNat && c.toNat ≤ range.last

def codePoints (range : Range) : List Nat :=
  (List.range (range.last + 1 - range.first)).map (range.first + ·)

end Range

end PlanChain.Text
