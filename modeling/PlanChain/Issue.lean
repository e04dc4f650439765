import PlanChain.Json.Decoder

set_option autoImplicit false

namespace PlanChain

inductive IssueCode where
  | expectedObject
  | expectedArray
  | expectedString
  | emptyString
  | tooLong
  | invalidUrl
  | notInteger
  | unsafeInteger
  | unknownKind
  | unsupportedFields
  | fieldNotAllowed
  | unsupportedVersion
  | invalidPlanId
  | unsupportedPlanVersion
  | emptyPlan
  | undefinedStep
  | invalidStepId
  | invalidStepKey
  | invalidStepValue
  | invalidSandboxSession
  | invalidSandboxUrl
  | invalidSandboxSelector
  | invalidSandboxText
  | invalidSandboxOutputKey
  | duplicateStepId
deriving DecidableEq

namespace IssueCode

def all : List IssueCode :=
  [.expectedObject, .expectedArray, .expectedString, .emptyString, .tooLong, .invalidUrl,
    .notInteger, .unsafeInteger, .unknownKind, .unsupportedFields, .fieldNotAllowed,
    .unsupportedVersion, .invalidPlanId, .unsupportedPlanVersion, .emptyPlan, .undefinedStep,
    .invalidStepId, .invalidStepKey, .invalidStepValue, .invalidSandboxSession, .invalidSandboxUrl,
    .invalidSandboxSelector, .invalidSandboxText, .invalidSandboxOutputKey, .duplicateStepId]

def name : IssueCode → String
  | expectedObject => "EXPECTED_OBJECT"
  | expectedArray => "EXPECTED_ARRAY"
  | expectedString => "EXPECTED_STRING"
  | emptyString => "EMPTY_STRING"
  | tooLong => "TOO_LONG"
  | invalidUrl => "INVALID_URL"
  | notInteger => "NOT_INTEGER"
  | unsafeInteger => "UNSAFE_INTEGER"
  | unknownKind => "UNKNOWN_KIND"
  | unsupportedFields => "UNSUPPORTED_FIELDS"
  | fieldNotAllowed => "FIELD_NOT_ALLOWED"
  | unsupportedVersion => "UNSUPPORTED_VERSION"
  | invalidPlanId => "INVALID_PLAN_ID"
  | unsupportedPlanVersion => "UNSUPPORTED_PLAN_VERSION"
  | emptyPlan => "EMPTY_PLAN"
  | undefinedStep => "UNDEFINED_STEP"
  | invalidStepId => "INVALID_STEP_ID"
  | invalidStepKey => "INVALID_STEP_KEY"
  | invalidStepValue => "INVALID_STEP_VALUE"
  | invalidSandboxSession => "INVALID_SANDBOX_SESSION"
  | invalidSandboxUrl => "INVALID_SANDBOX_URL"
  | invalidSandboxSelector => "INVALID_SANDBOX_SELECTOR"
  | invalidSandboxText => "INVALID_SANDBOX_TEXT"
  | invalidSandboxOutputKey => "INVALID_SANDBOX_OUTPUT_KEY"
  | duplicateStepId => "DUPLICATE_STEP_ID"

def ofName? (name : String) : Option IssueCode := all.find? (·.name = name)

def toJson (code : IssueCode) : Json := .str code.name

def ofJson? (json : Json) : Option IssueCode := json.enumName?.bind ofName?

end IssueCode

structure Issue where
  code : IssueCode
  path : String
  message : String
deriving DecidableEq

namespace Issue

def toJson (issue : Issue) : Json :=
  .obj [("code", issue.code.toJson), ("path", .str issue.path), ("message", .str issue.message)]

def ofJson? (json : Json) : Option Issue := do
  let members ← json.record? ["code", "path", "message"]
  some {
    code := ← members.required "code" IssueCode.ofJson?
    path := ← members.required "path" Json.string?
    message := ← members.required "message" Json.string? }

def describeAll (issues : List Issue) : String := "; ".intercalate (issues.map (·.message))

def listCodes (issues : List Issue) : String := ", ".intercalate (issues.map (·.code.name))

end Issue

end PlanChain
