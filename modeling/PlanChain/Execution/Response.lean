import PlanChain.Execution.Options
import PlanChain.Failure

set_option autoImplicit false

namespace PlanChain

structure ResponseMeta where
  mode : Mode
  stepCount : Option UInt64
  traceId : Option String
deriving DecidableEq

namespace ResponseMeta

def toJson (info : ResponseMeta) : Json :=
  .obj (("mode", info.mode.toJson) :: Json.present "stepCount" .ofUInt64 info.stepCount
    ++ Json.present "traceId" .str info.traceId)

def ofJson? (json : Json) : Option ResponseMeta := do
  let members ← json.record? ["mode", "stepCount", "traceId"]
  some {
    mode := ← members.required "mode" Mode.ofJson?
    stepCount := ← members.optional "stepCount" Json.uint64?
    traceId := ← members.optional "traceId" Json.string? }

end ResponseMeta

inductive Response (α : Type) where
  | success (result : α) (info : ResponseMeta)
  | failure (failure : Failure) (info : ResponseMeta)
deriving DecidableEq

namespace Response

variable {α : Type}

def isOk : Response α → Bool
  | success _ _ => true
  | failure _ _ => false

def info : Response α → ResponseMeta
  | success _ info | failure _ info => info

def failure? : Response α → Option Failure
  | success _ _ => none
  | failure reason _ => some reason

def toExcept : Response α → Except Failure α
  | success result _ => .ok result
  | failure reason _ => .error reason

def toJson (encode : α → Json) : Response α → Json
  | success result info =>
    .obj [("ok", .bool true), ("result", encode result), ("meta", info.toJson)]
  | failure reason info =>
    .obj [("ok", .bool false), ("error", reason.toJson), ("meta", info.toJson)]

-- The members of an envelope. Given by position, all four have to be there.
def members? : Json → Option Members
  | .arr [ok, result, error, info] =>
    some [("ok", ok), ("result", result), ("error", error), ("meta", info)]
  | .arr _ => none
  | json => json.members?

-- An envelope says that it is ok and has a result, or says it is not and has an error.
def ofJson? (decode : Json → Option α) (json : Json) : Option (Response α) := do
  let members ← members? json
  let ok ← members.required "ok" Json.bool?
  let result ← members.optional "result" decode
  let error ← members.optional "error" Failure.ofJson?
  let info ← members.required "meta" ResponseMeta.ofJson?
  match ok, result, error with
  | true, some result, none => some (.success result info)
  | false, none, some error => some (.failure error info)
  | _, _, _ => none

end Response

end PlanChain
