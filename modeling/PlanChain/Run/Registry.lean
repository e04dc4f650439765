import PlanChain.Run.Record
import PlanChain.Run.Request

set_option autoImplicit false

namespace PlanChain

inductive RegistryError where
  | notFound (runId : String)
  | invalidTransition (src dst : RunStatus)
deriving DecidableEq

namespace RegistryError

def code : RegistryError → ErrorCode
  | notFound _ => .notFound
  | invalidTransition _ _ => .invalidRunTransition

def message : RegistryError → String
  | notFound runId => "Run not found: " ++ runId
  | invalidTransition src dst => "Invalid transition: " ++ src.name ++ " -> " ++ dst.name

end RegistryError

structure Registry where
  records : Table RunRecord
  nextSequence : UInt64

namespace Registry

def empty : Registry := ⟨∅, 1⟩

def get? (registry : Registry) (runId : String) : Option RunRecord := registry.records.get? runId

def size (registry : Registry) : Nat := registry.records.size

def create (registry : Registry) (request : CreateRequest) (now : Timestamp) :
    RunRecord × Registry :=
  let record : RunRecord := {
    runId := runId registry.nextSequence, agentId := request.agentId, status := .created
    input := request.input, output := none, error := none, createdAt := now, updatedAt := now }
  (record, ⟨registry.records.insert record.runId record, registry.nextSequence + 1⟩)

-- Runs are listed by the moment of their creation; of one moment, by id.
def listedBefore (a b : RunRecord) : Bool :=
  if a.createdAt = b.createdAt then a.runId ≤ b.runId else a.createdAt.atMost b.createdAt

def list (registry : Registry) : List RunRecord :=
  registry.records.values.mergeSort listedBefore

def transition (registry : Registry) (runId : String) (status : RunStatus)
    (change : RunRecord → RunRecord) (now : Timestamp) :
    Except RegistryError (RunRecord × Registry) :=
  match registry.get? runId with
  | none => .error (.notFound runId)
  | some record =>
    if record.status.allows status then
      let record := { change record with status, updatedAt := now }
      .ok (record, { registry with records := registry.records.insert runId record })
    else .error (.invalidTransition record.status status)

def start (registry : Registry) (runId : String) (now : Timestamp) :
    Except RegistryError (RunRecord × Registry) :=
  registry.transition runId .running id now

def complete (registry : Registry) (runId : String) (output : Option Members) (now : Timestamp) :
    Except RegistryError (RunRecord × Registry) :=
  registry.transition runId .completed (fun record => { record with output }) now

def fail (registry : Registry) (runId : String) (error : RunError) (now : Timestamp) :
    Except RegistryError (RunRecord × Registry) :=
  registry.transition runId .failed (fun record => { record with error := some error }) now

-- Cancels a run. A reason becomes its error; without one the error stays as it is.
def cancel (registry : Registry) (runId : String) (reason : Option String) (now : Timestamp) :
    Except RegistryError (RunRecord × Registry) :=
  registry.transition runId .cancelled (fun record =>
    match reason with
    | none => record
    | some message => { record with error := some ⟨.runCancelled, message⟩ }) now

-- Overwrites a run that has not ended with a snapshot of it; none when there is no such run.
def restore? (registry : Registry) (snapshot : RunRecord) : Option Registry :=
  match registry.get? snapshot.runId with
  | none => none
  | some record =>
    if record.status.isTerminal then none
    else some { registry with records := registry.records.insert snapshot.runId snapshot }

end Registry

end PlanChain
