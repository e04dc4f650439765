import PlanChain.Sandbox.Provider
import PlanChain.Table
import PlanChain.Text.Quoted

set_option autoImplicit false

namespace PlanChain

namespace SandboxCall

def name : SandboxCall → String
  | visit _ => "open"
  | click _ => "click"
  | enter _ _ => "type"
  | extract _ => "extract"

def describe : SandboxCall → String
  | visit url => "Open \x7b url: " ++ Text.quoted url ++ " \x7d"
  | click selector => "Click \x7b selector: " ++ Text.quoted selector ++ " \x7d"
  | enter selector text =>
    "Type \x7b selector: " ++ Text.quoted selector ++ ", text: " ++ Text.quoted text ++ " \x7d"
  | extract selector => "Extract \x7b selector: " ++ Text.quoted selector ++ " \x7d"

def reply (text : Option String) : SandboxCall → SandboxReply
  | visit _ | click _ => .done
  | enter _ entered => .entered entered.length
  | extract _ => .extracted (text.getD "")

end SandboxCall

structure ScriptedCall where
  call : SandboxCall
  reply : Except SandboxError (Option String)
  delay : Nat := 0

def ScriptedCall.outcome (expected : ScriptedCall) (call : SandboxCall) : SandboxOutcome :=
  if expected.call = call then expected.reply.map (SandboxCall.reply · call)
  else
    .error (.invalid
      ("script mismatch: expected " ++ expected.call.describe ++ ", got " ++ call.describe))

structure ScriptedSession where
  script : List ScriptedCall
  closed : Bool := false

namespace ScriptedSession

-- Begins a call: how long it takes, what comes of it, and the session after it. An expected call is used
-- up even when the call is another one.
def call (session : ScriptedSession) (call : SandboxCall) :
    Nat × SandboxOutcome × ScriptedSession :=
  if session.closed then (0, .error (.invalid "session is closed"), session)
  else
    match session.script with
    | [] => (0, .error (.invalid ("script exhausted: unexpected " ++ call.name)), session)
    | expected :: rest =>
      (sleepLength expected.delay, expected.outcome call, { session with script := rest })

end ScriptedSession

structure ScriptedSandbox where
  scripts : Table (List ScriptedCall) := ∅
  sessions : Table ScriptedSession := ∅
  created : Nat := 0
  closed : Nat := 0
  shutdowns : Nat := 0

namespace ScriptedSandbox

def setScript (sandbox : ScriptedSandbox) (sessionId : String) (script : List ScriptedCall) :
    ScriptedSandbox :=
  { sandbox with scripts := sandbox.scripts.insert sessionId script }

-- Creates a session under a name of its own. It plays the script of its id from the start; an id without a
-- script has the empty one.
def create (sandbox : ScriptedSandbox) (name sessionId : String) : ScriptedSandbox :=
  { sandbox with
    sessions := sandbox.sessions.insert name ⟨(sandbox.scripts.get? sessionId).getD [], false⟩
    created := sandbox.created + 1 }

def session (sandbox : ScriptedSandbox) (name : String) : ScriptedSession :=
  (sandbox.sessions.get? name).getD ⟨[], false⟩

def call (sandbox : ScriptedSandbox) (name : String) (call : SandboxCall) :
    Nat × SandboxOutcome × ScriptedSandbox :=
  let (delay, outcome, session) := (sandbox.session name).call call
  (delay, outcome, { sandbox with sessions := sandbox.sessions.insert name session })

def close (sandbox : ScriptedSandbox) (name : String) : ScriptedSandbox :=
  let session := sandbox.session name
  if session.closed then sandbox
  else
    { sandbox with
      sessions := sandbox.sessions.insert name { session with closed := true }
      closed := sandbox.closed + 1 }

def shutdown (sandbox : ScriptedSandbox) : ScriptedSandbox :=
  { sandbox with shutdowns := sandbox.shutdowns + 1 }

def provider : Provider ScriptedSandbox where
  create sessionId _ sandbox := sandbox.create sessionId sessionId
  call sessionId call sandbox :=
    let (delay, outcome, sandbox) := sandbox.call sessionId call
    (⟨some delay, fun sandbox => (outcome, sandbox)⟩, sandbox)
  close sessionId sandbox := (⟨some 0, fun sandbox => ((), sandbox)⟩, sandbox.close sessionId)
  shutdown sandbox := (⟨some 0, fun sandbox => ((), sandbox)⟩, sandbox.shutdown)

end ScriptedSandbox

end PlanChain
