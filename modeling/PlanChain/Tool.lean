import PlanChain.Failure
import PlanChain.Text.Blank
import PlanChain.Text.Quoted
import PlanChain.Timeline

set_option autoImplicit false

namespace PlanChain

inductive ToolError where
  | invalidInput (message : String)
  | executionFailed (message : String)
deriving DecidableEq

structure ToolContext where
  requestId : Option String
  traceId : Option String
  timeout : UInt64

structure ToolAnswer where
  outcome : Except ToolError Members
  delay : Option Nat := some 0

structure Tool where
  name : String
  deterministic : Bool
  run : Members → ToolContext → ToolAnswer

namespace Tool

def echo : Tool where
  name := "echo"
  deterministic := true
  run input _ :=
    match (input.get? "message").bind Json.string? with
    | none => ⟨.error (.invalidInput "message must be a string"), some 0⟩
    | some message =>
      ⟨.ok [("echoed", .str message), ("length", .ofNat message.length)], some 0⟩

def total (index : Nat) (sum : Binary64) : List Json → Except ToolError Binary64
  | [] => .ok sum
  | .num value :: rest => total (index + 1) (sum.add value.toBinary64) rest
  | _ :: _ =>
    .error (.invalidInput ("values[" ++ Text.numeral index ++ "] must be a finite number"))

def finiteJson (value : Binary64) : Json := if value.isFinite then .num (.float value) else .null

def sum : Tool where
  name := "sum"
  deterministic := true
  run input _ :=
    match (input.get? "values").bind Json.items? with
    | none => ⟨.error (.invalidInput "values must be an array"), some 0⟩
    | some values =>
      ⟨(total 0 .zero values).map fun sum =>
        [("count", .ofNat values.length), ("total", finiteJson sum)], some 0⟩

end Tool

inductive RegistrationError where
  | invalidName
  | duplicate (name : String)
deriving DecidableEq

def RegistrationError.message : RegistrationError → String
  | invalidName => "Invalid tool registration"
  | duplicate name => "Duplicate tool registration: " ++ name

abbrev ToolRegistry := Table Tool

namespace ToolRegistry

def ofTools (tools : List Tool) : Except RegistrationError ToolRegistry :=
  tools.foldlM (fun (registry : ToolRegistry) tool =>
    if !Text.hasContent tool.name then .error .invalidName
    else if registry.contains tool.name then .error (.duplicate tool.name)
    else .ok (registry.insert tool.name tool)) ∅

def builtin : ToolRegistry := Table.ofList [("echo", .echo), ("sum", .sum)]

def describe (registry : ToolRegistry) : String :=
  "ToolRegistry \x7b tools: [" ++ ", ".intercalate (registry.keys.map Text.quoted) ++ "] \x7d"

end ToolRegistry

structure ToolRequest where
  toolName : String
  input : Members
  timeout : Option UInt64 := none
  requestId : Option String := none
  traceId : Option String := none

namespace ToolRequest

def defaultTimeout : UInt64 := 1000

-- The milliseconds the tool has. No time at all stands for the default.
def limit (request : ToolRequest) : UInt64 :=
  match request.timeout with
  | none => defaultTimeout
  | some timeout => if timeout = 0 then defaultTimeout else timeout

end ToolRequest

structure ToolExecution where
  toolName : String
  deterministic : Bool
  result : Except Failure Members

namespace ToolExecution

def failure (toolName : String) (code : ErrorCode) (message : String) : ToolExecution :=
  ⟨toolName, true, .error (.of code message)⟩

def toJson (execution : ToolExecution) : Json :=
  .obj <|
    [("ok", .bool execution.result.isOk), ("toolName", .str execution.toolName),
      ("deterministic", .bool execution.deterministic)]
    ++ match execution.result with
      | .ok output => [("output", .obj output)]
      | .error failure => [("error", failure.toJson)]

end ToolExecution

-- Calls a tool. An answer that takes exactly the limit is in time.
def ToolRegistry.invoke (registry : ToolRegistry) (request : ToolRequest) : ToolExecution :=
  let name := request.toolName
  match registry.get? name with
  | none => .failure name .toolNotFound ("Tool is not registered: " ++ name)
  | some tool =>
    let answer := tool.run request.input ⟨request.requestId, request.traceId, request.limit⟩
    if answer.delay.all (request.limit.toNat < sleepLength ·) then
      .failure name .toolTimeout "Tool execution exceeded timeout"
    else
      match answer.outcome with
      | .error (.invalidInput message) => .failure name .toolInvalidInput message
      | .error (.executionFailed message) =>
        .failure name .toolExecutionFailed ("Tool threw error: " ++ message)
      | .ok output => ⟨name, tool.deterministic, .ok output⟩

end PlanChain
