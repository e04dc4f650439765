import PlanChain.Plan.Basic
import PlanChain.Text.Digits

set_option autoImplicit false

namespace PlanChain

inductive SandboxErrorCode where
  | timeout
  | networkError
  | authFailed
  | overloaded
  | parseFailed
  | invalidRequest
deriving DecidableEq

namespace SandboxErrorCode

def all : List SandboxErrorCode :=
  [.timeout, .networkError, .authFailed, .overloaded, .parseFailed, .invalidRequest]

def name : SandboxErrorCode → String
  | timeout => "TIMEOUT"
  | networkError => "NETWORK_ERROR"
  | authFailed => "AUTH_FAILED"
  | overloaded => "OVERLOADED"
  | parseFailed => "PARSE_FAILED"
  | invalidRequest => "INVALID_REQUEST"

def ofName? (name : String) : Option SandboxErrorCode := all.find? (·.name = name)

def toJson (code : SandboxErrorCode) : Json := .str code.name

def ofJson? (json : Json) : Option SandboxErrorCode := json.enumName?.bind ofName?

end SandboxErrorCode

structure SandboxError where
  code : SandboxErrorCode
  message : String
  retryable : Bool
deriving DecidableEq

namespace SandboxError

def describe (error : SandboxError) : String := error.code.name ++ ": " ++ error.message

def invalid (message : String) : SandboxError := ⟨.invalidRequest, message, false⟩

def toJson (error : SandboxError) : Json :=
  .obj [("code", error.code.toJson), ("message", .str error.message),
    ("retryable", .bool error.retryable)]

def ofJson? (json : Json) : Option SandboxError := do
  let members ← json.record? ["code", "message", "retryable"]
  some {
    code := ← members.required "code" SandboxErrorCode.ofJson?
    message := ← members.required "message" Json.string?
    retryable := ← members.required "retryable" Json.bool? }

end SandboxError

inductive SandboxCall where
  | visit (url : String)
  | click (selector : String)
  | enter (selector text : String)
  | extract (selector : String)
deriving DecidableEq

inductive SandboxReply where
  | done
  | entered (length : Nat)
  | extracted (text : String)
deriving DecidableEq

def SandboxReply.text : SandboxReply → String
  | extracted text => text
  | _ => ""

namespace SandboxAction

def call : SandboxAction → SandboxCall
  | visit url => .visit url
  | click selector => .click selector
  | enter selector text => .enter selector text
  | extract selector _ => .extract selector

def logLine (sessionId : String) : SandboxAction → String
  | visit url => "sandbox.open:" ++ sessionId ++ ":" ++ url
  | click selector => "sandbox.click:" ++ sessionId ++ ":" ++ selector
  | enter selector text =>
    "sandbox.type:" ++ sessionId ++ ":" ++ selector ++ ":len=" ++ Text.numeral text.length
  | extract selector outputKey =>
    "sandbox.extract:" ++ sessionId ++ ":" ++ selector ++ ":out=" ++ outputKey

end SandboxAction

end PlanChain
