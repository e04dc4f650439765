import PlanChain.Json.Printer
import PlanChain.Table

set_option autoImplicit false

namespace PlanChain.Json

def placeMember (member : String × Json) : Members → Members
  | [] => [member]
  | head :: rest =>
    if head.1 < member.1 then head :: placeMember member rest else member :: head :: rest

mutual
-- The document with the members of every object in ascending order of name.
def sortMembers : Json → Json
  | .arr items => .arr (sortItems items)
  | .obj members => .obj (sortEach members)
  | .null => .null
  | .bool value => .bool value
  | .num value => .num value
  | .str value => .str value

def sortItems : List Json → List Json
  | [] => []
  | item :: rest => item.sortMembers :: sortItems rest

def sortEach : List (String × Json) → Members
  | [] => []
  | (name, value) :: rest => placeMember (name, value.sortMembers) (sortEach rest)
end

def canonical (json : Json) : String := json.sortMembers.compact

end PlanChain.Json
