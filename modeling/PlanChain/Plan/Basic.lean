import PlanChain.Json.Decoder

set_option autoImplicit false

namespace PlanChain

inductive StepKind where
  | set
  | increment
  | appendLog
  | sandboxOpen
  | sandboxClick
  | sandboxType
  | sandboxExtract
deriving DecidableEq

namespace StepKind

def all : List StepKind :=
  [.set, .increment, .appendLog, .sandboxOpen, .sandboxClick, .sandboxType, .sandboxExtract]

def name : StepKind → String
  | set => "set"
  | increment => "increment"
  | appendLog => "append_log"
  | sandboxOpen => "sandbox.open"
  | sandboxClick => "sandbox.click"
  | sandboxType => "sandbox.type"
  | sandboxExtract => "sandbox.extract"

def ofName? (name : String) : Option StepKind := all.find? (·.name = name)

def isSandbox : StepKind → Bool
  | set | increment | appendLog => false
  | sandboxOpen | sandboxClick | sandboxType | sandboxExtract => true

def toJson (kind : StepKind) : Json := .str kind.name

def ofJson? (json : Json) : Option StepKind := json.enumName?.bind ofName?

-- The kind that a step states: by its name, or by its place among all kinds, from zero.
def ofTag? : Json → Option StepKind
  | .str name => ofName? name
  | json => json.uint64?.bind fun place => all[place.toNat]?

end StepKind

inductive SandboxAction where
  | visit (url : String)
  | click (selector : String)
  | enter (selector text : String)
  | extract (selector outputKey : String)
deriving DecidableEq

namespace SandboxAction

def kind : SandboxAction → StepKind
  | visit _ => .sandboxOpen
  | click _ => .sandboxClick
  | enter _ _ => .sandboxType
  | extract _ _ => .sandboxExtract

def url? : SandboxAction → Option String
  | visit url => some url
  | _ => none

def selector? : SandboxAction → Option String
  | visit _ => none
  | click selector | enter selector _ | extract selector _ => some selector

def text? : SandboxAction → Option String
  | enter _ text => some text
  | _ => none

def outputKey? : SandboxAction → Option String
  | extract _ outputKey => some outputKey
  | _ => none

end SandboxAction

inductive Action where
  | set (key value : String)
  | increment (key : String) (amount : Int64)
  | appendLog (line : String)
  | sandbox (sessionId : String) (action : SandboxAction)
deriving DecidableEq

namespace Action

def kind : Action → StepKind
  | set _ _ => .set
  | increment _ _ => .increment
  | appendLog _ => .appendLog
  | sandbox _ action => action.kind

def key? : Action → Option String
  | set key _ | increment key _ => some key
  | _ => none

def sessionId? : Action → Option String
  | sandbox sessionId _ => some sessionId
  | _ => none

def sandboxAction? : Action → Option SandboxAction
  | sandbox _ action => some action
  | _ => none

def isSandbox : Action → Bool
  | sandbox _ _ => true
  | _ => false

end Action

structure Step where
  id : String
  action : Action
deriving DecidableEq

namespace Step

def kind (step : Step) : StepKind := step.action.kind

end Step

structure Plan where
  planId : String
  version : UInt32
  steps : List Step
deriving DecidableEq

namespace Plan

def currentVersion : UInt32 := 1

end Plan

end PlanChain
