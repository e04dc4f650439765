import PlanChain.Json.Basic
import PlanChain.Table
import PlanChain.Word

/-! A record is given by its members, or by the values of its first fields in order; members that are no field
are ignored. A required field has to be there, an optional one may be missing or null, and a defaulted one may
be missing. -/

set_option autoImplicit false

namespace PlanChain

variable {α : Type}

namespace Members

def required (members : Members) (name : String) (decode : Json → Option α) : Option α :=
  (members.get? name).bind decode

def optional (members : Members) (name : String) (decode : Json → Option α) : Option (Option α) :=
  match members.get? name with
  | none | some .null => some none
  | some value => (decode value).map some

def defaulted (members : Members) (name : String) (default : α) (decode : Json → Option α) :
    Option α :=
  match members.get? name with
  | none => some default
  | some value => decode value

end Members

namespace Json

def record? (fields : List String) : Json → Option Members
  | obj members => some members
  | arr items => if items.length ≤ fields.length then some (fields.zip items) else none
  | _ => none

-- A name that stands for itself: a string, or the only member of an object, without a value.
def enumName? : Json → Option String
  | str name => some name
  | obj [(name, null)] => some name
  | _ => none

def int64? (json : Json) : Option Int64 := json.int?.bind Word.int64?

def uint64? (json : Json) : Option UInt64 := json.int?.bind Word.uint64?

def uint32? (json : Json) : Option UInt32 := json.int?.bind Word.uint32?

def ofInt64 (value : Int64) : Json := ofInt value.toInt

def ofUInt64 (value : UInt64) : Json := ofNat value.toNat

def ofUInt32 (value : UInt32) : Json := ofNat value.toNat

def list? (decode : Json → Option α) (json : Json) : Option (List α) :=
  json.items?.bind fun items => items.mapM decode

def table? (decode : Json → Option α) (json : Json) : Option (Table α) :=
  json.members?.bind fun members =>
    (members.mapM fun member => (decode member.2).map (member.1, ·)).map Table.ofList

def ofTable (encode : α → Json) (table : Table α) : Json := obj (table.map encode).entries

def present (name : String) (encode : α → Json) : Option α → Members
  | none => []
  | some value => [(name, encode value)]

end Json

end PlanChain
