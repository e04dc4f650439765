import PlanChain.Text.Digits

set_option autoImplicit false

namespace PlanChain.Text

abbrev Reader (α : Type) := List Char → Option (α × List Char)

def after? (word input : List Char) : Option (List Char) :=
  match word, input with
  | [], rest => some rest
  | c :: word, d :: rest => if c = d then after? word rest else none
  | _ :: _, [] => none

def fixedDigits (count : Nat) : Reader Nat := fun input =>
  if (input.take count).length = count then
    (decimal? (input.take count)).map (·, input.drop count)
  else none

end PlanChain.Text
