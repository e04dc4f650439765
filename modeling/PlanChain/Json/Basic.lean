import PlanChain.Binary64.Basic

/-! An object keeps its members in the order given; a look-up takes the first of a name. Integers and
floating-point numbers are kept apart, as their literals are. -/

set_option autoImplicit false

namespace PlanChain

inductive Number where
  | int (value : Int)
  | float (value : Binary64)
deriving DecidableEq

namespace Number

-- The whole number this is equal to, if any; `2` and `2.0` are the same whole number.
def toInt? : Number → Option Int
  | int value => some value
  | float value => value.toInt?

def toBinary64 : Number → Binary64
  | int value => Binary64.ofInt value
  | float value => value

end Number

inductive Json where
  | null
  | bool (value : Bool)
  | num (value : Number)
  | str (value : String)
  | arr (items : List Json)
  | obj (members : List (String × Json))
deriving Inhabited

abbrev Members := List (String × Json)

namespace Members

def get? (members : Members) (name : String) : Option Json :=
  match members with
  | [] => none
  | (key, value) :: rest => if key = name then some value else get? rest name

def contains (members : Members) (name : String) : Bool := (get? members name).isSome

end Members

namespace Json

mutual
def decEq : (a b : Json) → Decidable (a = b)
  | .null, .null => isTrue rfl
  | .bool a, .bool b =>
    if same : a = b then isTrue (same ▸ rfl) else isFalse fun h => same (by injection h)
  | .num a, .num b =>
    if same : a = b then isTrue (same ▸ rfl) else isFalse fun h => same (by injection h)
  | .str a, .str b =>
    if same : a = b then isTrue (same ▸ rfl) else isFalse fun h => same (by injection h)
  | .arr a, .arr b =>
    match decEqItems a b with
    | isTrue same => isTrue (same ▸ rfl)
    | isFalse different => isFalse fun h => different (by injection h)
  | .obj a, .obj b =>
    match decEqMembers a b with
    | isTrue same => isTrue (same ▸ rfl)
    | isFalse different => isFalse fun h => different (by injection h)
  | .null, .bool _ | .null, .num _ | .null, .str _ | .null, .arr _ | .null, .obj _
  | .bool _, .null | .bool _, .num _ | .bool _, .str _ | .bool _, .arr _ | .bool _, .obj _
  | .num _, .null | .num _, .bool _ | .num _, .str _ | .num _, .arr _ | .num _, .obj _
  | .str _, .null | .str _, .bool _ | .str _, .num _ | .str _, .arr _ | .str _, .obj _
  | .arr _, .null | .arr _, .bool _ | .arr _, .num _ | .arr _, .str _ | .arr _, .obj _
  | .obj _, .null | .obj _, .bool _ | .obj _, .num _ | .obj _, .str _ | .obj _, .arr _ =>
    isFalse (fun h => nomatch h)

def decEqItems : (a b : List Json) → Decidable (a = b)
  | [], [] => isTrue rfl
  | [], _ :: _ | _ :: _, [] => isFalse (fun h => nomatch h)
  | a :: restA, b :: restB =>
    match decEq a b, decEqItems restA restB with
    | isTrue head, isTrue tail => isTrue (head ▸ tail ▸ rfl)
    | isFalse different, _ => isFalse fun h => different (by injection h)
    | _, isFalse different => isFalse fun h => different (by injection h)

def decEqMembers : (a b : List (String × Json)) → Decidable (a = b)
  | [], [] => isTrue rfl
  | [], _ :: _ | _ :: _, [] => isFalse (fun h => nomatch h)
  | (keyA, a) :: restA, (keyB, b) :: restB =>
    if keys : keyA = keyB then
      match decEq a b, decEqMembers restA restB with
      | isTrue head, isTrue tail => isTrue (keys ▸ head ▸ tail ▸ rfl)
      | isFalse different, _ => isFalse fun h => different (by injection h with h; injection h)
      | _, isFalse different => isFalse fun h => different (by injection h)
    else isFalse fun h => keys (by injection h with h; injection h)
end

instance : DecidableEq Json := decEq

def members? : Json → Option Members
  | obj members => some members
  | _ => none

def items? : Json → Option (List Json)
  | arr items => some items
  | _ => none

def string? : Json → Option String
  | str value => some value
  | _ => none

def bool? : Json → Option Bool
  | bool value => some value
  | _ => none

def number? : Json → Option Number
  | num value => some value
  | _ => none

def int? : Json → Option Int
  | num (.int value) => some value
  | _ => none

def get? (json : Json) (name : String) : Option Json := json.members?.bind (·.get? name)

def ofInt (value : Int) : Json := num (.int value)

def ofNat (value : Nat) : Json := num (.int value)

def ofOption {α : Type} (encode : α → Json) : Option α → Json
  | none => null
  | some value => encode value

end Json

end PlanChain
