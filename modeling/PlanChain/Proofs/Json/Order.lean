import PlanChain.Json.Canonical
import PlanChain.Json.Decoder
import PlanChain.Proofs.Json.Compact

set_option autoImplicit false

namespace PlanChain

theorem Members.eq_of_get? (a b : Members) (names : a.map (·.1) = b.map (·.1)) (distinct : (a.map (·.1)).Nodup)
    (same : ∀ name ∈ a.map (·.1), a.get? name = b.get? name) : a = b := by
  induction a generalizing b with
  | nil =>
      cases b with
      | nil => rfl
      | cons head rest => cases names
  | cons head rest ih =>
      cases b with
      | nil => cases names
      | cons other more =>
          obtain ⟨name, value⟩ := head
          obtain ⟨otherName, otherValue⟩ := other
          obtain ⟨sameName, sameNames⟩ := List.cons.inj names
          dsimp only at sameName
          subst sameName
          obtain ⟨fresh, restDistinct⟩ := List.nodup_cons.mp distinct
          have sameValue : value = otherValue := by
            have found := same name List.mem_cons_self
            simpa [Members.get?] using found
          have restSame : rest = more := by
            refine ih more sameNames restDistinct fun key present => ?_
            have missed : name ≠ key := fun equal => fresh (equal ▸ present)
            have found := same key (List.mem_cons_of_mem _ present)
            simpa [Members.get?, missed] using found
          rw [sameValue, restSame]

namespace Json

theorem place_get? (name other : String) (value : Json) (members : Members) :
    (placeMember (name, value) members).get? other = if name = other then some value else members.get? other := by
  induction members with
  | nil => simp [placeMember, Members.get?]
  | cons head rest ih =>
      obtain ⟨key, content⟩ := head
      by_cases less : key < name
      · have different : key ≠ name := fun same => String.lt_irrefl _ (same ▸ less)
        rw [placeMember, if_pos less, Members.get?, ih, Members.get?]
        by_cases hit : key = other
        · have missed : name ≠ other := fun same => different (hit.trans same.symm)
          simp [hit, missed]
        · simp [hit]
      · rw [placeMember, if_neg less, Members.get?]

theorem sort_get? (members : Members) (name : String) :
    (sortEach members).get? name = (members.get? name).map sortMembers := by
  induction members with
  | nil => rfl
  | cons head rest ih =>
      obtain ⟨key, value⟩ := head
      rw [sortEach, place_get?, ih, Members.get?]
      by_cases hit : key = name <;> simp [hit]

theorem place_whole (member : String × Json) (members : Members) (value : member.2.Whole)
    (whole : WholeMembers members) : WholeMembers (placeMember member members) := by
  induction members with
  | nil => exact ⟨value, trivial⟩
  | cons head rest ih =>
      by_cases less : head.1 < member.1
      · rw [placeMember, if_pos less]
        exact ⟨whole.1, ih whole.2⟩
      · rw [placeMember, if_neg less]
        exact ⟨value, whole⟩

mutual
theorem sort_whole (json : Json) (whole : json.Whole) : json.sortMembers.Whole := by
  cases json with
  | arr items => exact sort_items_whole items whole
  | obj members => exact sort_each_whole members whole
  | null => exact whole
  | bool value => exact whole
  | num value => exact whole
  | str value => exact whole

theorem sort_items_whole (items : List Json) (whole : WholeItems items) : WholeItems (sortItems items) := by
  cases items with
  | nil => trivial
  | cons item rest => exact ⟨sort_whole item whole.1, sort_items_whole rest whole.2⟩

theorem sort_each_whole (members : List (String × Json)) (whole : WholeMembers members) :
    WholeMembers (sortEach members) := by
  cases members with
  | nil => trivial
  | cons member rest =>
      obtain ⟨name, value⟩ := member
      exact place_whole (name, value.sortMembers) _ (sort_whole value whole.1) (sort_each_whole rest whole.2)
end

theorem canonical_sorted (a b : Json) (wholeA : a.Whole) (wholeB : b.Whole) (same : a.canonical = b.canonical) :
    a.sortMembers = b.sortMembers :=
  compact_injective _ _ (sort_whole a wholeA) (sort_whole b wholeB) same

theorem canonical_members (a b : Members) (wholeA : WholeMembers a) (wholeB : WholeMembers b)
    (same : (obj a).canonical = (obj b).canonical) (name : String) :
    (a.get? name).map sortMembers = (b.get? name).map sortMembers := by
  have sorted : sortEach a = sortEach b := Json.obj.inj (canonical_sorted (obj a) (obj b) wholeA wholeB same)
  rw [← sort_get?, sorted, sort_get?]

theorem sort_items_map (items : List Json) : sortItems items = items.map sortMembers := by
  induction items with
  | nil => rfl
  | cons item rest ih => rw [sortItems, ih, List.map_cons]

theorem ascending_stays (members : Members) (ascending : Ascending members)
    (settled : ∀ member ∈ members, member.2.sortMembers = member.2) : sortEach members = members := by
  induction members with
  | nil => rfl
  | cons head rest ih =>
      obtain ⟨name, value⟩ := head
      obtain ⟨below, restAscending⟩ := List.pairwise_cons.mp ascending
      have restStays := ih restAscending fun member present => settled member (List.mem_cons_of_mem _ present)
      have valueStays : value.sortMembers = value := settled (name, value) List.mem_cons_self
      rw [sortEach, restStays, valueStays]
      cases rest with
      | nil => rfl
      | cons next others =>
          have notLess : ¬ next.1 < name := fun less =>
            String.lt_irrefl _ (String.lt_trans less (below next List.mem_cons_self))
          rw [placeMember, if_neg notLess]

theorem table_stays {α : Type} (encode : α → Json) (table : Table α)
    (settled : ∀ value, (encode value).sortMembers = encode value) :
    (ofTable encode table).sortMembers = ofTable encode table := by
  refine congrArg obj (ascending_stays _ (table.map encode).ascending fun member present => ?_)
  obtain ⟨entry, -, same⟩ := List.mem_map.mp present
  rw [← same]
  exact settled entry.2

theorem items_stay (items : List Json) (settled : ∀ item ∈ items, item.sortMembers = item) :
    (arr items).sortMembers = arr items := by
  rw [sortMembers, sort_items_map]
  refine congrArg arr ?_
  calc items.map sortMembers = items.map id := List.map_congr_left settled
    _ = items := List.map_id items

theorem get?_settled (members : Members) (settled : ∀ member ∈ members, member.2.sortMembers = member.2)
    (name : String) : (members.get? name).map sortMembers = members.get? name := by
  induction members with
  | nil => rfl
  | cons head rest ih =>
      obtain ⟨key, value⟩ := head
      have valueSettled : value.sortMembers = value := settled (key, value) List.mem_cons_self
      have restSettled := ih fun member present => settled member (List.mem_cons_of_mem _ present)
      by_cases hit : key = name
      · simp [Members.get?, hit, valueSettled]
      · simpa [Members.get?, hit] using restSettled

theorem object_determined (a b : Members) (names : a.map (·.1) = b.map (·.1)) (distinct : (a.map (·.1)).Nodup)
    (settledA : ∀ member ∈ a, member.2.sortMembers = member.2)
    (settledB : ∀ member ∈ b, member.2.sortMembers = member.2) (same : sortEach a = sortEach b) : a = b := by
  refine Members.eq_of_get? a b names distinct fun name _ => ?_
  rw [← get?_settled a settledA, ← get?_settled b settledB, ← sort_get?, same, sort_get?]

def Plain : Json → Prop
  | .null | .bool _ | .num (.int _) | .str _ => True
  | .num (.float _) | .arr _ | .obj _ => False

theorem plain_settled (json : Json) (plain : json.Plain) : json.sortMembers = json := by
  cases json with
  | arr items => exact plain.elim
  | obj members => exact plain.elim
  | _ => rfl

theorem plain_whole (json : Json) (plain : json.Plain) : json.Whole := by
  cases json with
  | num number =>
      cases number with
      | int value => trivial
      | float value => exact plain.elim
  | arr items => exact plain.elim
  | obj members => exact plain.elim
  | _ => trivial

theorem table_whole {α : Type} (encode : α → Json) (table : Table α) (plain : ∀ value, (encode value).Plain) :
    (ofTable encode table).Whole := by
  refine (whole_members_iff _).mpr fun member present => ?_
  obtain ⟨entry, -, same⟩ := List.mem_map.mp present
  rw [← same]
  exact plain_whole _ (plain entry.2)

end Json

end PlanChain
