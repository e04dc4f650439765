import PlanChain.Json.Decoder

set_option autoImplicit false

namespace PlanChain

inductive ErrorCode where
  | invalidRequest
  | malformedRequest
  | executionConvergenceFailed
  | internalError
  | networkError
  | timeout
  | overloaded
  | notFound
  | methodNotAllowed
  | invalidRunTransition
  | runCancelled
  | fixpointMaxIter
  | toolNotFound
  | toolTimeout
  | toolInvalidInput
  | toolExecutionFailed
deriving DecidableEq

namespace ErrorCode

def all : List ErrorCode :=
  [.invalidRequest, .malformedRequest, .executionConvergenceFailed, .internalError, .networkError,
    .timeout, .overloaded, .notFound, .methodNotAllowed, .invalidRunTransition, .runCancelled,
    .fixpointMaxIter, .toolNotFound, .toolTimeout, .toolInvalidInput, .toolExecutionFailed]

def name : ErrorCode → String
  | invalidRequest => "INVALID_REQUEST"
  | malformedRequest => "MALFORMED_REQUEST"
  | executionConvergenceFailed => "EXECUTION_CONVERGENCE_FAILED"
  | internalError => "INTERNAL_ERROR"
  | networkError => "NETWORK_ERROR"
  | timeout => "TIMEOUT"
  | overloaded => "OVERLOADED"
  | notFound => "NOT_FOUND"
  | methodNotAllowed => "METHOD_NOT_ALLOWED"
  | invalidRunTransition => "INVALID_RUN_TRANSITION"
  | runCancelled => "RUN_CANCELLED"
  | fixpointMaxIter => "FIXPOINT_MAX_ITER"
  | toolNotFound => "TOOL_NOT_FOUND"
  | toolTimeout => "TOOL_TIMEOUT"
  | toolInvalidInput => "TOOL_INVALID_INPUT"
  | toolExecutionFailed => "TOOL_EXECUTION_FAILED"

def ofName? (name : String) : Option ErrorCode := all.find? (·.name = name)

def isRetryable : ErrorCode → Bool
  | networkError | timeout | overloaded | internalError | toolTimeout => true
  | _ => false

def httpStatus : ErrorCode → Nat
  | invalidRequest | malformedRequest | toolInvalidInput => 400
  | notFound | toolNotFound => 404
  | methodNotAllowed => 405
  | invalidRunTransition => 409
  | executionConvergenceFailed => 422
  | _ => 500

def toJson (code : ErrorCode) : Json := .str code.name

def ofJson? (json : Json) : Option ErrorCode := json.enumName?.bind ofName?

end ErrorCode

structure Failure where
  code : ErrorCode
  message : String
  retryable : Bool
deriving DecidableEq

namespace Failure

def of (code : ErrorCode) (message : String) : Failure := ⟨code, message, code.isRetryable⟩

def unhandled : Failure := of .internalError "Unhandled execute exception"

def describe (failure : Failure) : String := failure.code.name ++ ": " ++ failure.message

def toJson (failure : Failure) : Json :=
  .obj [("code", failure.code.toJson), ("message", .str failure.message),
    ("retryable", .bool failure.retryable)]

def ofJson? (json : Json) : Option Failure := do
  let members ← json.record? ["code", "message", "retryable"]
  some {
    code := ← members.required "code" ErrorCode.ofJson?
    message := ← members.required "message" Json.string?
    retryable := ← members.required "retryable" Json.bool? }

end Failure

end PlanChain
