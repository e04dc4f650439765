import PlanChain.Execution.Apply
import PlanChain.Plan.Wire
import PlanChain.Sandbox.Scripted

set_option autoImplicit false

namespace PlanChain.Sample

def plan (planId : String) (steps : List Json) : Json :=
  .obj [("planId", .str planId), ("steps", .arr steps), ("version", .ofNat 1)]

def stepOf (id : String) (action : Action) : Json := Step.toJson ⟨id, action⟩

def p1 : Json :=
  plan "p1" [stepOf "a" (.set "k" "v"), stepOf "b" (.increment "n" 2)]

def p1State : State :=
  { counters := (∅ : Table Int64).insert "n" 2, values := (∅ : Table String).insert "k" "v" }

def logs (count : Nat) : Json :=
  plan "logs" <| (List.range count).map fun index =>
    stepOf ("s" ++ Text.numeral index) (.appendLog ("line " ++ Text.numeral index))

def sessionId : String := "s1"

def browse : Json :=
  plan "browse" [stepOf "open" (.sandbox sessionId (.visit "https://example.com")),
    stepOf "click" (.sandbox sessionId (.click "#go")),
    stepOf "type" (.sandbox sessionId (.enter "#q" "hello")),
    stepOf "read" (.sandbox sessionId (.extract "#out" "result"))]

def browseScript (extracted : String) : List ScriptedCall :=
  [{ call := .visit "https://example.com", reply := .ok none },
    { call := .click "#go", reply := .ok none },
    { call := .enter "#q" "hello", reply := .ok none },
    { call := .extract "#out", reply := .ok (some extracted) }]

def sandbox (extracted : String) : ScriptedSandbox :=
  ScriptedSandbox.setScript {} sessionId (browseScript extracted)

def flaky (failures : Nat) : Applier Nat := fun state step calls =>
  if calls < failures then (.error (.failed ("injected failure at step " ++ step.id)), calls + 1)
  else (.ofExcept (state.simulate step), calls + 1)

end PlanChain.Sample
