import PlanChain.Run.Registry

set_option autoImplicit false

namespace PlanChain

inductive RegistryCall where
  | create (request : CreateRequest) (now : Timestamp)
  | start (runId : String) (now : Timestamp)
  | complete (runId : String) (output : Option Members) (now : Timestamp)
  | fail (runId : String) (error : RunError) (now : Timestamp)
  | cancel (runId : String) (reason : Option String) (now : Timestamp)
  | restore (snapshot : RunRecord)

inductive RegistryAnswer where
  | done (record : RunRecord)
  | refused (error : RegistryError)
  | passed
deriving DecidableEq

namespace RegistryCall

def isCreate : RegistryCall → Bool
  | create _ _ => true
  | _ => false

def target (registry : Registry) : RegistryCall → String
  | create _ _ => runId registry.nextSequence
  | start runId _ | complete runId _ _ | fail runId _ _ | cancel runId _ _ => runId
  | restore snapshot => snapshot.runId

def ends? : RegistryCall → Option String
  | complete runId _ _ | fail runId _ _ | cancel runId _ _ => some runId
  | _ => none

end RegistryCall

namespace Registry

def answer (registry : Registry) :
    Except RegistryError (RunRecord × Registry) → RegistryAnswer × Registry
  | .ok (record, after) => (.done record, after)
  | .error error => (.refused error, registry)

def perform (registry : Registry) : RegistryCall → RegistryAnswer × Registry
  | .create request now =>
    let (record, after) := registry.create request now
    (.done record, after)
  | .start runId now => registry.answer (registry.start runId now)
  | .complete runId output now => registry.answer (registry.complete runId output now)
  | .fail runId error now => registry.answer (registry.fail runId error now)
  | .cancel runId reason now => registry.answer (registry.cancel runId reason now)
  | .restore snapshot =>
    match registry.restore? snapshot with
    | none => (.passed, registry)
    | some after => (.done snapshot, after)

def after (calls : List RegistryCall) : Registry :=
  calls.foldl (fun registry call => (registry.perform call).2) .empty

def before (calls : List RegistryCall) (place : Nat) : Registry := after (calls.take place)

end Registry

end PlanChain
