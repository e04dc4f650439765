import PlanChain.Execution.Response
import PlanChain.Trace

set_option autoImplicit false

namespace PlanChain

structure ExecutionResult where
  planId : String
  planDigest : String
  executionDigest : String
  finalLink : String
  schemaVersion : UInt32
  stepsRequested : UInt64
  stepsExecuted : UInt64
  converged : Bool
  finalState : State
  trace : List TraceEntry
deriving DecidableEq

namespace ExecutionResult

def toJson (result : ExecutionResult) : Json :=
  .obj [("planId", .str result.planId), ("planHash", .str result.planDigest),
    ("executionHash", .str result.executionDigest),
    ("finalTraceLinkHash", .str result.finalLink),
    ("traceSchemaVersion", .ofUInt32 result.schemaVersion),
    ("stepsRequested", .ofUInt64 result.stepsRequested),
    ("stepsExecuted", .ofUInt64 result.stepsExecuted), ("converged", .bool result.converged),
    ("finalState", result.finalState.toJson), ("trace", .arr (result.trace.map TraceEntry.toJson))]

def ofJson? (json : Json) : Option ExecutionResult := do
  let members ← json.record? ["planId", "planHash", "executionHash", "finalTraceLinkHash",
    "traceSchemaVersion", "stepsRequested", "stepsExecuted", "converged", "finalState", "trace"]
  some {
    planId := ← members.required "planId" Json.string?
    planDigest := ← members.required "planHash" Json.string?
    executionDigest := ← members.required "executionHash" Json.string?
    finalLink := ← members.required "finalTraceLinkHash" Json.string?
    schemaVersion := ← members.required "traceSchemaVersion" Json.uint32?
    stepsRequested := ← members.required "stepsRequested" Json.uint64?
    stepsExecuted := ← members.required "stepsExecuted" Json.uint64?
    converged := ← members.required "converged" Json.bool?
    finalState := ← members.required "finalState" State.ofJson?
    trace := ← members.required "trace" (Json.list? TraceEntry.ofJson?) }

end ExecutionResult

abbrev ExecutionResponse := Response ExecutionResult

namespace ExecutionResponse

def toJson (response : ExecutionResponse) : Json := Response.toJson ExecutionResult.toJson response

def ofJson? (json : Json) : Option ExecutionResponse := Response.ofJson? ExecutionResult.ofJson? json

end ExecutionResponse

end PlanChain
