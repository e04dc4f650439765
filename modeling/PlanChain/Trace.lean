import PlanChain.Digest.Sha256
import PlanChain.Plan.Basic
import PlanChain.State

set_option autoImplicit false

namespace PlanChain

namespace Step

-- A step as digests see it: texts in form C, and null for what the step does not have.
def view (step : Step) : Json :=
  let text (value : Option String) : Json := .ofOption (fun value => .str (Text.nfc value)) value
  let value : Json := match step.action with
    | .set _ value | .appendLog value => .str (Text.nfc value)
    | .increment _ amount => .ofInt64 amount
    | .sandbox _ _ => .null
  .obj <|
    [("id", .str (Text.nfc step.id)), ("kind", step.kind.toJson), ("key", text step.action.key?),
      ("value", value)]
    ++ match step.action with
      | .sandbox sessionId action =>
        [("sessionId", .str (Text.nfc sessionId)), ("url", text action.url?),
          ("selector", text action.selector?), ("text", text action.text?),
          ("outputKey", text action.outputKey?)]
      | _ => []

end Step

structure TraceEntry where
  schemaVersion : UInt32
  stepIndex : UInt64
  stepId : String
  kind : StepKind
  before : String
  after : String
  previousLink : String
  link : String
  applied : Bool
deriving DecidableEq

namespace TraceEntry

def toJson (entry : TraceEntry) : Json :=
  .obj [("traceSchemaVersion", .ofUInt32 entry.schemaVersion),
    ("stepIndex", .ofUInt64 entry.stepIndex), ("stepId", .str entry.stepId),
    ("kind", entry.kind.toJson), ("beforeHashLike", .str entry.before),
    ("afterHashLike", .str entry.after), ("previousTraceLinkHash", .str entry.previousLink),
    ("traceLinkHash", .str entry.link), ("applied", .bool entry.applied)]

def ofJson? (json : Json) : Option TraceEntry := do
  let members ← json.record? ["traceSchemaVersion", "stepIndex", "stepId", "kind",
    "beforeHashLike", "afterHashLike", "previousTraceLinkHash", "traceLinkHash", "applied"]
  some {
    schemaVersion := ← members.required "traceSchemaVersion" Json.uint32?
    stepIndex := ← members.required "stepIndex" Json.uint64?
    stepId := ← members.required "stepId" Json.string?
    kind := ← members.required "kind" StepKind.ofJson?
    before := ← members.required "beforeHashLike" Json.string?
    after := ← members.required "afterHashLike" Json.string?
    previousLink := ← members.required "previousTraceLinkHash" Json.string?
    link := ← members.required "traceLinkHash" Json.string?
    applied := ← members.required "applied" Json.bool? }

end TraceEntry

namespace Trace

def schemaVersion : UInt32 := 1

def genesis : String := "tl" ++ String.ofList (List.replicate 64 '0')

structure LinkInput where
  previousLink : String
  stepIndex : UInt64
  step : Step
  beforeMark : String
  afterMark : String
  before : State
  after : State

namespace LinkInput

def toJson (input : LinkInput) : Json :=
  .obj [("traceSchemaVersion", .ofUInt32 schemaVersion),
    ("previousLinkHash", .str input.previousLink), ("stepIndex", .ofUInt64 input.stepIndex),
    ("step", input.step.view), ("beforeHashLike", .str input.beforeMark),
    ("afterHashLike", .str input.afterMark), ("beforeState", input.before.view),
    ("afterState", input.after.view)]

def digest (input : LinkInput) : String := Digest.tagged "tl" input.toJson.canonical

end LinkInput

structure ExecutionInput where
  planDigest : String
  stepCount : UInt64
  finalLink : String
  finalState : State

namespace ExecutionInput

def toJson (input : ExecutionInput) : Json :=
  .obj [("traceSchemaVersion", .ofUInt32 schemaVersion), ("planHash", .str input.planDigest),
    ("stepCount", .ofUInt64 input.stepCount), ("finalTraceLinkHash", .str input.finalLink),
    ("finalState", input.finalState.view)]

def digest (input : ExecutionInput) : String := Digest.tagged "eh" input.toJson.canonical

end ExecutionInput

structure Chain where
  latest : String
  entries : List TraceEntry

namespace Chain

def empty : Chain := ⟨genesis, []⟩

def record (chain : Chain) (step : Step) (before after : State) (beforeMark afterMark : String) :
    Chain :=
  let stepIndex := UInt64.ofNat chain.entries.length
  let link := LinkInput.digest
    { previousLink := chain.latest, stepIndex, step, beforeMark, afterMark, before, after }
  ⟨link, chain.entries ++ [{
    schemaVersion, stepIndex, stepId := step.id, kind := step.kind, before := beforeMark,
    after := afterMark, previousLink := chain.latest, link, applied := true }]⟩

end Chain

inductive Break where
  | indexGap (position : Nat) (found : UInt64)
  | schemaVersion (position : Nat) (found : UInt32)
  | brokenLink (position : Nat)
deriving DecidableEq

namespace Break

def message : Break → String
  | indexGap position found =>
    "trace entry " ++ Text.numeral position ++ " has stepIndex " ++ Text.numeral found.toNat
  | schemaVersion position found =>
    "trace entry " ++ Text.numeral position ++ " has unsupported schema version "
      ++ Text.numeral found.toNat
  | brokenLink position =>
    "trace entry " ++ Text.numeral position ++ " does not link to its predecessor"

end Break

def checkFrom (position : Nat) (previous : String) : List TraceEntry → Except Break Unit
  | [] => .ok ()
  | entry :: rest =>
    if entry.stepIndex.toNat ≠ position then .error (.indexGap position entry.stepIndex)
    else if entry.schemaVersion ≠ schemaVersion then
      .error (.schemaVersion position entry.schemaVersion)
    else if entry.previousLink ≠ previous then .error (.brokenLink position)
    else checkFrom (position + 1) entry.link rest

def check (trace : List TraceEntry) : Except Break Unit := checkFrom 0 genesis trace

end Trace

end PlanChain
