import PlanChain.Digest.Sha256
import PlanChain.Issue
import PlanChain.Plan.Policy
import PlanChain.Plan.Wire
import PlanChain.State
import PlanChain.Text.Normal

set_option autoImplicit false

namespace PlanChain

structure Checked (α : Type) where
  issues : List Issue
  value : Option α

namespace Checked

variable {α β γ : Type}

def accept (value : α) : Checked α := ⟨[], some value⟩

def reject (code : IssueCode) (path message : String) : Checked α :=
  ⟨[⟨code, path, message⟩], none⟩

def both (combine : α → β → γ) (first : Checked α) (second : Checked β) : Checked γ :=
  ⟨first.issues ++ second.issues, do some (combine (← first.value) (← second.value))⟩

def map (change : α → β) (checked : Checked α) : Checked β :=
  ⟨checked.issues, checked.value.map change⟩

def following (issues : List Issue) (checked : Checked α) : Checked α :=
  ⟨issues ++ checked.issues, checked.value⟩

end Checked

namespace Canonical

def idLimit : Nat := 256

def textLimit : Nat := 4096

def urlLimit : Nat := 2048

def selectorLimit : Nat := 512

def text (path : String) (limit : Nat) : Option Json → Checked String
  | some (.str raw) =>
    let normal := Text.normalize raw
    if normal = "" then .reject .emptyString path (path ++ " must be a non-empty string")
    else if limit < normal.length then
      .reject .tooLong path (path ++ " exceeds max length " ++ Text.numeral limit)
    else .accept normal
  | _ => .reject .expectedString path (path ++ " must be a string")

def url (path : String) (value : Option Json) : Checked String :=
  let checked := text path urlLimit value
  match checked.value with
  | some address =>
    if Policy.isHttp address then checked
    else .reject .invalidUrl path (path ++ " must start with http:// or https://")
  | none => checked

def safeInteger (path : String) (value : Option Json) : Checked Int64 :=
  match (value.bind Json.number?).bind Number.toInt? with
  | none => .reject .notInteger path (path ++ " must be a finite integer")
  | some whole =>
    if whole.natAbs ≤ maxSafeInteger then .accept (Int64.ofInt whole)
    else .reject .unsafeInteger path (path ++ " must be a safe integer")

def unsupported (path : String) (known : List String) (members : Members) : List Issue :=
  let extras := (members.map (·.1)).filter (!known.contains ·)
  if extras.isEmpty then []
  else
    [⟨.unsupportedFields, path, path ++ " contains unsupported fields: " ++ ", ".intercalate extras⟩]

def unused (path : String) (kind : StepKind) (names : List String) (members : Members) :
    List Issue :=
  (names.filter members.contains).map fun name =>
    ⟨.fieldNotAllowed, path ++ "." ++ name,
      path ++ "." ++ name ++ " must not be present for " ++ kind.name⟩

def planFields : List String := ["planId", "version", "steps"]

def coreFields : List String := ["id", "kind", "key", "value"]

def sandboxFields : List String :=
  ["id", "kind", "sessionId", "url", "selector", "text", "outputKey"]

def unusedFields : StepKind → List String
  | .set | .increment => []
  | .appendLog => ["key"]
  | .sandboxOpen => ["selector", "text", "outputKey"]
  | .sandboxClick => ["url", "text", "outputKey"]
  | .sandboxType => ["url", "outputKey"]
  | .sandboxExtract => ["url", "text"]

def action (path : String) (kind : StepKind) (step : Members) : Checked Action :=
  let field (name : String) (limit : Nat) : Checked String :=
    text (path ++ "." ++ name) limit (step.get? name)
  let session : Checked String := field "sessionId" idLimit
  let selector : Checked String := field "selector" selectorLimit
  .following (unused path kind (unusedFields kind) step) <|
    match kind with
    | .set => .both .set (field "key" idLimit) (field "value" textLimit)
    | .increment =>
      .both .increment (field "key" idLimit) (safeInteger (path ++ ".value") (step.get? "value"))
    | .appendLog => .map .appendLog (field "value" textLimit)
    | .sandboxOpen =>
      .both .sandbox session (.map .visit (url (path ++ ".url") (step.get? "url")))
    | .sandboxClick => .both .sandbox session (.map .click selector)
    | .sandboxType => .both .sandbox session (.both .enter selector (field "text" textLimit))
    | .sandboxExtract =>
      .both .sandbox session (.both .extract selector (field "outputKey" idLimit))

-- One step. It is read only when nothing stands against it.
def step (index : Nat) (raw : Json) : Checked Step :=
  let path := Policy.stepPath index
  match raw.members? with
  | none => .reject .expectedObject path (path ++ " must be an object")
  | some members =>
    match Policy.kindOf members with
    | none =>
      .reject .unknownKind (path ++ ".kind")
        (path ++ ".kind must be one of: " ++ ", ".intercalate (StepKind.all.map (·.name)))
    | some kind =>
      let id := text (path ++ ".id") idLimit (members.get? "id")
      let known := if kind.isSandbox then sandboxFields else coreFields
      let checked := Checked.both Step.mk id <|
        .following (unsupported path known members) (action path kind members)
      ⟨checked.issues, if checked.issues.isEmpty then checked.value else none⟩

def steps (index : Nat) : List Json → List (Checked Step)
  | [] => []
  | raw :: rest => step index raw :: steps (index + 1) rest

def duplicates (seen : List String) : List Step → List Issue
  | [] => []
  | step :: rest =>
    if step.id ∈ seen then
      ⟨.duplicateStepId, "plan.steps", "Duplicate step id in canonical plan: " ++ step.id⟩
        :: duplicates seen rest
    else duplicates (step.id :: seen) rest

def version (value : Option Json) : List Issue :=
  if (value.bind Json.number?).bind Number.toInt? = some 1 then []
  else [⟨.unsupportedVersion, "plan.version", "plan.version must be 1"⟩]

def stepList (value : Option Json) : List Issue × List Step :=
  match value.bind Json.items? with
  | none => ([⟨.expectedArray, "plan.steps", "plan.steps must be an array"⟩], [])
  | some items =>
    let checked := steps 0 items
    (checked.flatMap (·.issues), checked.filterMap (·.value))

end Canonical

namespace Plan

def canonical (raw : Json) : Except (List Issue) Plan :=
  match raw.members? with
  | none => .error [⟨.expectedObject, "plan", "plan must be an object"⟩]
  | some members =>
    let planId := Canonical.text "plan.planId" Canonical.idLimit (members.get? "planId")
    let (stepIssues, steps) := Canonical.stepList (members.get? "steps")
    let issues := Canonical.unsupported "plan" Canonical.planFields members ++ planId.issues
      ++ Canonical.version (members.get? "version") ++ stepIssues ++ Canonical.duplicates [] steps
    if issues.isEmpty then .ok ⟨planId.value.getD "", currentVersion, steps⟩ else .error issues

def recanonical (plan : Plan) : Except (List Issue) Plan := canonical plan.toJson

def text (plan : Plan) : String := plan.toJson.canonical

def digest (plan : Plan) : String := Digest.tagged "ph" plan.text

end Plan

end PlanChain
