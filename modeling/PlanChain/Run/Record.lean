import PlanChain.Failure
import PlanChain.Timestamp

set_option autoImplicit false

namespace PlanChain

inductive RunStatus where
  | created
  | running
  | completed
  | failed
  | cancelled
deriving DecidableEq

namespace RunStatus

def all : List RunStatus := [.created, .running, .completed, .failed, .cancelled]

def name : RunStatus → String
  | created => "created"
  | running => "running"
  | completed => "completed"
  | failed => "failed"
  | cancelled => "cancelled"

def ofName? (name : String) : Option RunStatus := all.find? (·.name = name)

def toJson (status : RunStatus) : Json := .str status.name

def ofJson? (json : Json) : Option RunStatus := json.enumName?.bind ofName?

def next : RunStatus → List RunStatus
  | created => [.running, .cancelled]
  | running => [.completed, .failed, .cancelled]
  | completed | failed | cancelled => []

def isTerminal (status : RunStatus) : Bool := status.next.isEmpty

def allows (src dst : RunStatus) : Bool := src.next.contains dst

end RunStatus

structure RunError where
  code : ErrorCode
  message : String
deriving DecidableEq

namespace RunError

def toJson (error : RunError) : Json :=
  .obj [("code", error.code.toJson), ("message", .str error.message)]

def ofJson? (json : Json) : Option RunError := do
  let members ← json.record? ["code", "message"]
  some {
    code := ← members.required "code" ErrorCode.ofJson?
    message := ← members.required "message" Json.string? }

end RunError

-- The id of the run of a number: the number in six digits at least.
def runId (sequence : UInt64) : String :=
  String.ofList (['r', 'u', 'n', '_'] ++ Text.padded 6 (Text.decimal sequence.toNat))

namespace Timestamp

def toJson (moment : Timestamp) : Json := .str moment.text

def ofJson? (json : Json) : Option Timestamp := json.string?.bind ofText?

end Timestamp

structure RunRecord where
  runId : String
  agentId : String
  status : RunStatus
  input : Option Members
  output : Option Members
  error : Option RunError
  createdAt : Timestamp
  updatedAt : Timestamp
deriving DecidableEq

namespace RunRecord

def toJson (record : RunRecord) : Json :=
  .obj <|
    [("runId", .str record.runId), ("agentId", .str record.agentId),
      ("status", record.status.toJson)]
    ++ Json.present "input" .obj record.input ++ Json.present "output" .obj record.output
    ++ Json.present "error" RunError.toJson record.error
    ++ [("createdAt", record.createdAt.toJson), ("updatedAt", record.updatedAt.toJson)]

def ofJson? (json : Json) : Option RunRecord := do
  let members ← json.record?
    ["runId", "agentId", "status", "input", "output", "error", "createdAt", "updatedAt"]
  some {
    runId := ← members.required "runId" Json.string?
    agentId := ← members.required "agentId" Json.string?
    status := ← members.required "status" RunStatus.ofJson?
    input := ← members.optional "input" Json.members?
    output := ← members.optional "output" Json.members?
    error := ← members.optional "error" RunError.ofJson?
    createdAt := ← members.required "createdAt" Timestamp.ofJson?
    updatedAt := ← members.required "updatedAt" Timestamp.ofJson? }

end RunRecord

end PlanChain
