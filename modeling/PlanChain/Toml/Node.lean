import PlanChain.Json.Decoder

/-! A table is opened by a header, implied by a longer header, made by a dotted key, or written inline; that
tells what may still be added to it. -/

set_option autoImplicit false

namespace PlanChain.Toml

inductive Origin where
  | header
  | implied
  | dotted
  | inline
deriving DecidableEq

inductive Node where
  | text (value : String)
  | integer (value : Int64)
  | float (value : Binary64)
  | boolean (value : Bool)
  | moment (written : String)
  | array (items : List Node)
  | table (origin : Origin) (entries : List (String × Node))
  | tables (elements : List (List (String × Node)))

abbrev Entries := List (String × Node)

namespace Entries

def get? (entries : Entries) (key : String) : Option Node := List.lookup key entries

def put (entries : Entries) (key : String) (node : Node) : Entries :=
  match entries with
  | [] => [(key, node)]
  | (other, old) :: rest =>
    if other = key then (key, node) :: rest else (other, old) :: put rest key node

end Entries

def Origin.opensToKeys : Origin → Bool
  | header | inline => false
  | implied | dotted => true

def Origin.opensToHeaders : Origin → Bool
  | inline => false
  | header | implied | dotted => true

-- Changes the table at the end of a path. Tables that are missing on the way are made, with the origin
-- given; tables that `opens` refuses, and nodes that are no table, end the way. Of a list of tables the
-- last is meant.
def descend (made : Origin) (opens : Origin → Bool) (change : Origin → Entries → Option Entries) :
    (path : List String) → Origin → Entries → Option Entries
  | [], origin, entries => change origin entries
  | key :: path, _, entries =>
    match entries.get? key with
    | none => (descend made opens change path made []).map fun inner =>
      entries.put key (.table made inner)
    | some (.table origin inner) =>
      if opens origin then
        (descend made opens change path origin inner).map fun inner =>
          entries.put key (.table origin inner)
      else none
    | some (.tables elements) =>
      match elements.getLast? with
      | none => none
      | some last =>
        (descend made opens change path .header last).map fun inner =>
          entries.put key (.tables (elements.dropLast ++ [inner]))
    | some _ => none

def splitKey (key : List String) : List String × String := (key.dropLast, key.getLastD "")

-- Sets a key that is not there yet. A dotted key only adds to tables that dotted keys made.
def assign (key : List String) (node : Node) (entries : Entries) : Option Entries :=
  let (path, name) := splitKey key
  descend .dotted Origin.opensToKeys (fun origin inner =>
    if !path.isEmpty && origin ≠ .dotted then none
    else if (inner.get? name).isSome then none
    else some (inner.put name node)) path .inline entries

def openTable (key : List String) (root : Entries) : Option Entries :=
  let (path, name) := splitKey key
  descend .implied Origin.opensToHeaders (fun _ parent =>
    match parent.get? name with
    | none => some (parent.put name (.table .header []))
    | some (.table .implied inner) => some (parent.put name (.table .header inner))
    | some _ => none) path .header root

def addTable (key : List String) (root : Entries) : Option Entries :=
  let (path, name) := splitKey key
  descend .implied Origin.opensToHeaders (fun _ parent =>
    match parent.get? name with
    | none => some (parent.put name (.tables [[]]))
    | some (.tables elements) => some (parent.put name (.tables (elements ++ [[]])))
    | some _ => none) path .header root

def assignIn (header key : List String) (node : Node) (root : Entries) : Option Entries :=
  descend .implied Origin.opensToHeaders (fun _ entries => assign key node entries) header .header root

mutual
-- A node as JSON. A moment is an object of which nothing can be asked, and what JSON has no number for is
-- null.
def Node.toJson : Node → Json
  | .text value => .str value
  | .integer value => .ofInt64 value
  | .float value => if value.isFinite then .num (.float value) else .null
  | .boolean value => .bool value
  | .moment _ => .obj []
  | .array items => .arr (itemsToJson items)
  | .table _ entries => .obj (entriesToJson entries)
  | .tables elements => .arr (elementsToJson elements)

def itemsToJson : List Node → List Json
  | [] => []
  | item :: rest => item.toJson :: itemsToJson rest

def entriesToJson : List (String × Node) → Members
  | [] => []
  | (key, node) :: rest => (key, node.toJson) :: entriesToJson rest

def elementsToJson : List (List (String × Node)) → List Json
  | [] => []
  | entries :: rest => .obj (entriesToJson entries) :: elementsToJson rest
end

end PlanChain.Toml
