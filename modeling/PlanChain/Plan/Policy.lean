import PlanChain.Issue
import PlanChain.Plan.Wire
import PlanChain.Text.Blank
import PlanChain.Text.Digits

/-! Texts are looked at as they were given; an unknown kind of step is left to the canonical form. -/

set_option autoImplicit false

namespace PlanChain.Policy

def isText : Option Json → Bool
  | some (.str value) => Text.hasContent value
  | _ => false

def isString : Option Json → Bool
  | some (.str _) => true
  | _ => false

def isInteger : Option Json → Bool
  | some (.num value) => value.toInt?.isSome
  | _ => false

def isHttp (url : String) : Bool := url.startsWith "http://" || url.startsWith "https://"

def isHttpUrl : Option Json → Bool
  | some (.str value) => Text.hasContent value && isHttp value
  | _ => false

structure Demand where
  met : Option Json → Bool
  code : IssueCode
  field : String
  wording : String

def demands : StepKind → List Demand
  | .set => [⟨isText, .invalidStepKey, "key", "non-empty key"⟩,
      ⟨isString, .invalidStepValue, "value", "string value"⟩]
  | .increment => [⟨isText, .invalidStepKey, "key", "non-empty key"⟩,
      ⟨isInteger, .invalidStepValue, "value", "integer value"⟩]
  | .appendLog => [⟨isString, .invalidStepValue, "value", "string value"⟩]
  | .sandboxOpen => [session,
      ⟨isHttpUrl, .invalidSandboxUrl, "url", "url starting with http:// or https://"⟩]
  | .sandboxClick => [session, selector]
  | .sandboxType => [session, selector,
      ⟨isText, .invalidSandboxText, "text", "non-empty text"⟩]
  | .sandboxExtract => [session, selector,
      ⟨isText, .invalidSandboxOutputKey, "outputKey", "non-empty outputKey"⟩]
where
  session := ⟨isText, .invalidSandboxSession, "sessionId", "non-empty sessionId"⟩
  selector := ⟨isText, .invalidSandboxSelector, "selector", "non-empty selector"⟩

def stepPath (index : Nat) : String := "steps[" ++ Text.numeral index ++ "]"

def idOf (step : Members) : Option String := (step.get? "id").bind Json.string?

def kindOf (step : Members) : Option StepKind :=
  ((step.get? "kind").bind Json.string?).bind StepKind.ofName?

def unmet (step : Members) (index : Nat) (kind : StepKind) (demand : Demand) : Option Issue :=
  if demand.met (step.get? demand.field) then none
  else
    some ⟨demand.code, stepPath index ++ "." ++ demand.field,
      "Step '" ++ (idOf step).getD "" ++ "' (" ++ kind.name ++ ") requires " ++ demand.wording⟩

def stepViolations (index : Nat) (step : Members) : List Issue :=
  (if isText (step.get? "id") then []
    else [⟨.invalidStepId, stepPath index ++ ".id",
      "Step at index " ++ Text.numeral index ++ " requires a non-empty id"⟩])
  ++ match kindOf step with
    | none => []
    | some kind => (demands kind).filterMap (unmet step index kind)

def stepsViolations (index : Nat) (seen : List String) : List Json → List Issue
  | [] => []
  | .null :: rest =>
    ⟨.undefinedStep, stepPath index, "Step at index " ++ Text.numeral index ++ " is undefined"⟩
      :: stepsViolations (index + 1) seen rest
  | step :: rest =>
    let members := step.members?.getD []
    stepViolations index members
      ++ match (idOf members).filter Text.hasContent with
        | none => stepsViolations (index + 1) seen rest
        | some id =>
          if id ∈ seen then
            ⟨.duplicateStepId, stepPath index ++ ".id", "Duplicate step id: " ++ id⟩
              :: stepsViolations (index + 1) seen rest
          else stepsViolations (index + 1) (id :: seen) rest

def violations (raw : Json) : List Issue :=
  let plan := raw.members?.getD []
  let steps := ((plan.get? "steps").bind Json.items?).getD []
  (if isText (plan.get? "planId") then []
    else [⟨.invalidPlanId, "plan.planId", "planId must be a non-empty string"⟩])
  ++ (if ((plan.get? "version").bind Json.number?).bind Number.toInt? = some 1 then []
    else [⟨.unsupportedPlanVersion, "plan.version", "Only plan version 1 is supported"⟩])
  ++ (if steps.isEmpty then [⟨.emptyPlan, "plan.steps", "Plan must contain at least one step"⟩]
    else [])
  ++ stepsViolations 0 [] steps

end PlanChain.Policy
