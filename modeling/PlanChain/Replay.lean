import PlanChain.Execution.Run

set_option autoImplicit false

namespace PlanChain

namespace Replay

inductive Mismatch where
  | schemaVersion
  | planDigest
  | executionDigest
  | finalLink
  | traceLength
  | finalState
  | executionFailed (failure : Failure)
deriving DecidableEq

namespace Mismatch

def message : Mismatch → String
  | schemaVersion => "traceSchemaVersion mismatch"
  | planDigest => "planHash mismatch"
  | executionDigest => "executionHash mismatch"
  | finalLink => "finalTraceLinkHash mismatch"
  | traceLength => "trace length mismatch"
  | finalState => "finalState mismatch"
  | executionFailed failure =>
    "Replay execution failed: " ++ failure.code.name ++ " / " ++ failure.message

end Mismatch

inductive Verification where
  | verified
  | mismatch (mismatch : Mismatch)
deriving DecidableEq

namespace Verification

def isOk : Verification → Bool
  | verified => true
  | mismatch _ => false

def mismatch? : Verification → Option Mismatch
  | verified => none
  | mismatch found => some found

def toJson : Verification → Json
  | verified =>
    .obj [("ok", .bool true),
      ("checks", .obj (["traceSchemaVersionMatch", "planHashMatch", "executionHashMatch",
        "finalTraceLinkHashMatch", "traceLengthMatch", "finalStateMatch"].map
          fun check => (check, .bool true)))]
  | mismatch found => .obj [("ok", .bool false), ("reason", .str found.message)]

end Verification

def firstMismatch (fresh recorded : ExecutionResult) : Option Mismatch :=
  if fresh.schemaVersion ≠ recorded.schemaVersion then some .schemaVersion
  else if fresh.planDigest ≠ recorded.planDigest then some .planDigest
  else if fresh.executionDigest ≠ recorded.executionDigest then some .executionDigest
  else if fresh.finalLink ≠ recorded.finalLink then some .finalLink
  else if fresh.trace.length ≠ recorded.trace.length then some .traceLength
  else if fresh.finalState ≠ recorded.finalState then some .finalState
  else none

-- The step budget of a replay: some more than was recorded, as far as the budget's range goes.
def budget (recorded : ExecutionResult) : Int64 :=
  (Word.int64? (recorded.stepsRequested.toNat + 10)).getD Int64.maxValue

def options (recorded : ExecutionResult) : Options := { mode := .mock, maxSteps := budget recorded }

def judge (recorded : ExecutionResult) : Except Failure ExecutionResult → Verification
  | .error failure => .mismatch (.executionFailed failure)
  | .ok fresh => (firstMismatch fresh recorded).elim .verified .mismatch

def verifyWith {σ : Type} (apply : Applier σ) (raw : Json) (recorded : ExecutionResult) (world : σ) :
    Option Verification :=
  (execute apply raw (options recorded) world).outcome.toExcept?.map (judge recorded)

-- Runs the plan again in simulation and compares. The simulation does not crash.
def verify (raw : Json) (recorded : ExecutionResult) : Verification :=
  (verifyWith simulation raw recorded ()).getD (.mismatch (.executionFailed .unhandled))

end Replay

end PlanChain
