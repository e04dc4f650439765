import PlanChain.Json.Canonical
import PlanChain.Json.Decoder
import PlanChain.Digest.Fingerprint
import PlanChain.Text.Normal

set_option autoImplicit false

namespace PlanChain

def maxSafeInteger : Nat := Nat.pow 2 53 - 1

structure State where
  counters : Table Int64 := ∅
  values : Table String := ∅
  logs : List String := []
deriving DecidableEq, Inhabited

namespace State

def empty : State := {}

def toJson (state : State) : Json :=
  .obj [("counters", .ofTable .ofInt64 state.counters), ("values", .ofTable .str state.values),
    ("logs", .arr (state.logs.map .str))]

def ofJson? (json : Json) : Option State := do
  let members ← json.record? ["counters", "values", "logs"]
  some {
    counters := ← members.required "counters" (Json.table? Json.int64?)
    values := ← members.required "values" (Json.table? Json.string?)
    logs := ← members.required "logs" (Json.list? Json.string?) }

-- The state as digests see it: texts in form C, and only the counters in the safe range.
def view (state : State) : Json :=
  .obj [
    ("counters", .ofTable .ofInt64
      (state.counters.filter fun count => count.toInt.natAbs ≤ maxSafeInteger)),
    ("values", .ofTable (fun value => .str (Text.nfc value)) state.values),
    ("logs", .arr (state.logs.map fun line => .str (Text.nfc line)))]

def fingerprint (state : State) : String := Digest.fingerprint state.toJson.canonical

end State

end PlanChain
