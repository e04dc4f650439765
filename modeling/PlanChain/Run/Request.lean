import PlanChain.Execution.Options
import PlanChain.Plan.Basic

set_option autoImplicit false

namespace PlanChain

structure CreateRequest where
  agentId : String
  input : Option Members := none
deriving DecidableEq

namespace CreateRequest

def toJson (request : CreateRequest) : Json :=
  .obj (("agentId", .str request.agentId) :: Json.present "input" .obj request.input)

def ofJson? (json : Json) : Option CreateRequest := do
  let members ← json.record? ["agentId", "input"]
  some {
    agentId := ← members.required "agentId" Json.string?
    input := ← members.optional "input" Json.members? }

end CreateRequest

structure ExecuteRequest where
  options : Options := {}
  plan : Json
deriving DecidableEq

namespace ExecuteRequest

def toJson (request : ExecuteRequest) : Json :=
  .obj <|
    [("mode", request.options.mode.toJson), ("maxSteps", .ofInt64 request.options.maxSteps)]
    ++ Json.present "traceId" .str request.options.traceId ++ [("plan", request.plan)]

def ofJson? (json : Json) : Option ExecuteRequest := do
  let members ← json.record? ["mode", "maxSteps", "traceId", "plan"]
  some {
    options := {
      mode := ← members.defaulted "mode" .mock Mode.ofJson?
      maxSteps := ← members.defaulted "maxSteps" defaultMaxSteps Json.int64?
      traceId := ← members.optional "traceId" Json.string? }
    plan := ← members.get? "plan" }

end ExecuteRequest

end PlanChain
