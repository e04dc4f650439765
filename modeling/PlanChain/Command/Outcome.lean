import PlanChain.Command.Arguments
import PlanChain.Json.Parser
import PlanChain.Replay
import PlanChain.Run.Service

set_option autoImplicit false

namespace PlanChain.Command

abbrev Files := String → Except String String

inductive Outcome where
  | document (ok : Bool) (json : Json)
  | error (message : String)

def readJson (files : Files) (path : String) : Except String Json :=
  match files path with
  | .error _ => .error ("failed to read " ++ path)
  | .ok text =>
    match Json.parse? text with
    | none => .error ("invalid JSON in " ++ path)
    | some json => .ok json

def readConfig (files : Files) : Option String → Except String Config
  | none => .ok {}
  | some path =>
    match files path with
    | .error reason => .error ("failed to read config " ++ path ++ ": " ++ reason)
    | .ok text =>
      match Config.ofText text with
      | .error .unreadable => .error "invalid config: TOML parse error"
      | .error (.invalid error) => .error error.message
      | .ok config => .ok config

-- The recorded result in a document: an envelope that succeeds, or a bare result.
def recordedResult (path : String) (json : Json) : Except String ExecutionResult :=
  match ExecutionResponse.ofJson? json with
  | some response =>
    response.toExcept.mapError fun failure => "recorded envelope is a failure: " ++ failure.describe
  | none =>
    match ExecutionResult.ofJson? json with
    | some result => .ok result
    | none => .error (path ++ " is not a recorded execution")

def hashDocument (raw : Json) : Outcome :=
  match Plan.canonical raw with
  | .ok plan =>
    .document true <| Json.sortMembers <|
      .obj [("ok", .bool true), ("plan", plan.toJson), ("planHash", .str plan.digest)]
  | .error issues =>
    .document false <| Json.sortMembers <|
      .obj [("issues", .arr (issues.map Issue.toJson)), ("message", .str (Issue.describeAll issues)),
        ("ok", .bool false)]

def executeDocument (config : Config) (raw : Json) (maxSteps : Option Int64)
    (traceId : Option String) : Outcome :=
  let options : Options := { maxSteps := maxSteps.getD config.defaultMaxSteps, traceId }
  match (simulate raw options).toResponse? options with
  | some response => .document response.isOk response.toJson
  | none => .error Failure.unhandled.message

def runDocument (config : Config) (raw : Json) (agentId : String) (clock : Clock) : Outcome :=
  let service : Service Unit := { config }
  let (created, store) := Store.create { clock } { agentId }
  let request : ExecuteRequest :=
    { options := { maxSteps := config.defaultMaxSteps }, plan := raw }
  match (service.executeLive created.runId request [] ⟨store, ()⟩).result with
  | .ok record => .document (record.status = .completed) record.toJson
  | .error error => .error error.message

def verifyDocument (raw : Json) (recorded : ExecutionResult) : Outcome :=
  let verification := Replay.verify raw recorded
  .document verification.isOk verification.toJson

def Task.perform (files : Files) (clock : Clock) (config : Config) : Task → Except String Outcome
  | .execute plan maxSteps traceId => do
    .ok (executeDocument config (← readJson files plan) maxSteps traceId)
  | .verify plan recorded => do
    let raw ← readJson files plan
    .ok (verifyDocument raw (← recordedResult recorded (← readJson files recorded)))
  | .hash plan => do .ok (hashDocument (← readJson files plan))
  | .run plan agentId => do .ok (runDocument config (← readJson files plan) agentId clock)

def perform (files : Files) (clock : Clock) (configPath : Option String) (task : Task) : Outcome :=
  match readConfig files configPath >>= fun config => task.perform files clock config with
  | .ok outcome => outcome
  | .error message => .error message

structure Report where
  exitCode : UInt8
  output : Option String := none
  error : Option String := none

namespace Report

def version : String := "0.1.0"

def ofOutcome : Outcome → Report
  | .document ok json => { exitCode := if ok then 0 else 1, output := some json.pretty }
  | .error message => { exitCode := 1, error := some message }

end Report

def respond (files : Files) (clock : Clock) (arguments : List String) : Report :=
  match Request.ofArguments? arguments with
  | none => { exitCode := 2 }
  | some .help => { exitCode := 0 }
  | some .version => { exitCode := 0, output := some ("dar " ++ Report.version) }
  | some (.task config task) => .ofOutcome (perform files clock config task)

end PlanChain.Command
