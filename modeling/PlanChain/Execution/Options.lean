import PlanChain.Json.Decoder

set_option autoImplicit false

namespace PlanChain

inductive Mode where
  | live
  | mock
deriving DecidableEq, Inhabited

namespace Mode

def all : List Mode := [.live, .mock]

def name : Mode → String
  | live => "local"
  | mock => "mock"

def ofName? (name : String) : Option Mode := all.find? (·.name = name)

def toJson (mode : Mode) : Json := .str mode.name

def ofJson? (json : Json) : Option Mode := json.enumName?.bind ofName?

end Mode

def defaultMaxSteps : Int64 := 100

-- The budget is signed, so that one that no plan can meet can be given.
structure Options where
  mode : Mode := .mock
  maxSteps : Int64 := defaultMaxSteps
  traceId : Option String := none
deriving DecidableEq

end PlanChain
