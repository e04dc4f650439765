import PlanChain.Plan.Basic

set_option autoImplicit false

namespace PlanChain

namespace Action

def members : Action → Members
  | set key value => [("key", .str key), ("value", .str value)]
  | increment key amount => [("key", .str key), ("value", .ofInt64 amount)]
  | appendLog line => [("value", .str line)]
  | sandbox sessionId (.visit url) => [("sessionId", .str sessionId), ("url", .str url)]
  | sandbox sessionId (.click selector) =>
    [("sessionId", .str sessionId), ("selector", .str selector)]
  | sandbox sessionId (.enter selector text) =>
    [("sessionId", .str sessionId), ("selector", .str selector), ("text", .str text)]
  | sandbox sessionId (.extract selector outputKey) =>
    [("sessionId", .str sessionId), ("selector", .str selector), ("outputKey", .str outputKey)]

def ofMembers? (kind : StepKind) (members : Members) : Option Action :=
  let text (name : String) : Option String := members.required name Json.string?
  match kind with
  | .set => do some (set (← text "key") (← text "value"))
  | .increment => do some (increment (← text "key") (← members.required "value" Json.int64?))
  | .appendLog => do some (appendLog (← text "value"))
  | .sandboxOpen => do some (sandbox (← text "sessionId") (.visit (← text "url")))
  | .sandboxClick => do some (sandbox (← text "sessionId") (.click (← text "selector")))
  | .sandboxType => do
    some (sandbox (← text "sessionId") (.enter (← text "selector") (← text "text")))
  | .sandboxExtract => do
    some (sandbox (← text "sessionId") (.extract (← text "selector") (← text "outputKey")))

end Action

namespace Step

def toJson (step : Step) : Json :=
  .obj (("id", .str step.id) :: ("kind", step.kind.toJson) :: step.action.members)

def ofJson? (json : Json) : Option Step := do
  let members ← json.members?
  let kind ← members.required "kind" StepKind.ofTag?
  some { id := ← members.required "id" Json.string?, action := ← Action.ofMembers? kind members }

end Step

namespace Plan

def toJson (plan : Plan) : Json :=
  .obj [("planId", .str plan.planId), ("version", .ofUInt32 plan.version),
    ("steps", .arr (plan.steps.map Step.toJson))]

def ofJson? (json : Json) : Option Plan := do
  let members ← json.record? ["planId", "version", "steps"]
  some {
    planId := ← members.required "planId" Json.string?
    version := ← members.required "version" Json.uint32?
    steps := ← members.required "steps" (Json.list? Step.ofJson?) }

end Plan

end PlanChain
