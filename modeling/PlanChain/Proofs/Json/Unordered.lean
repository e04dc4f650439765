import PlanChain.Proofs.Json.Survival

set_option autoImplicit false

namespace PlanChain.Json

mutual
inductive SameUpToOrder : Json → Json → Prop where
  | null : SameUpToOrder .null .null
  | bool (value : Bool) : SameUpToOrder (.bool value) (.bool value)
  | num (value : Number) : SameUpToOrder (.num value) (.num value)
  | str (value : String) : SameUpToOrder (.str value) (.str value)
  | arr {items others : List Json} : SameItems items others → SameUpToOrder (.arr items) (.arr others)
  | obj {members others : Members} : SameMembers members others → SameUpToOrder (.obj members) (.obj others)

inductive SameItems : List Json → List Json → Prop where
  | nil : SameItems [] []
  | cons {item other : Json} {rest others : List Json} :
    SameUpToOrder item other → SameItems rest others → SameItems (item :: rest) (other :: others)

-- The first member stands anywhere among the others; what is left of both is matched in the same way.
inductive SameMembers : Members → Members → Prop where
  | nil : SameMembers [] []
  | cons (name : String) {value other : Json} {rest front back : Members} :
    SameUpToOrder value other → SameMembers rest (front ++ back) →
      SameMembers ((name, value) :: rest) (front ++ (name, other) :: back)
end

mutual
def EachObject (described : Members → Prop) : Json → Prop
  | .arr items => EachItem described items
  | .obj members => described members ∧ EachMember described members
  | .null | .bool _ | .num _ | .str _ => True

def EachItem (described : Members → Prop) : List Json → Prop
  | [] => True
  | item :: rest => item.EachObject described ∧ EachItem described rest

def EachMember (described : Members → Prop) : List (String × Json) → Prop
  | [] => True
  | (_, value) :: rest => value.EachObject described ∧ EachMember described rest
end

def NamesDistinct (members : Members) : Prop := (members.map (·.1)).Nodup

def Distinct (json : Json) : Prop := json.EachObject NamesDistinct

def Ascends (json : Json) : Prop := json.EachObject Ascending

theorem each_item_iff (described : Members → Prop) (items : List Json) :
    EachItem described items ↔ ∀ item ∈ items, item.EachObject described := by
  induction items with
  | nil => simp [EachItem]
  | cons item rest ih => simp [EachItem, ih]

theorem each_member_iff (described : Members → Prop) (members : Members) :
    EachMember described members ↔ ∀ member ∈ members, member.2.EachObject described := by
  induction members with
  | nil => simp [EachMember]
  | cons member rest ih => simp [EachMember, ih]

def sortedInside (member : String × Json) : String × Json := (member.1, member.2.sortMembers)

theorem middle_first (member : String × Json) (front back : Members) :
    ((front ++ member :: back).map sortedInside).Perm (sortedInside member :: (front ++ back).map sortedInside) :=
  List.perm_middle.map sortedInside

mutual
theorem same_of_sorted (a b : Json) (sorted : a.sortMembers = b.sortMembers) : SameUpToOrder a b := by
  cases a with
  | null => cases b <;> cases sorted; exact .null
  | bool value => cases b <;> cases sorted; exact .bool value
  | num value => cases b <;> cases sorted; exact .num value
  | str value => cases b <;> cases sorted; exact .str value
  | arr items =>
      obtain ⟨others, rfl, each⟩ := reordered_array b items sorted.symm
      exact .arr (same_items_of_sorted items others each.symm)
  | obj members =>
      obtain ⟨others, rfl, each⟩ := reordered_object b members sorted.symm
      refine .obj (same_members_of_perm members others ?_)
      have written := sort_perm members
      rw [← each] at written
      exact written.symm.trans (sort_perm others)

theorem same_items_of_sorted (items others : List Json) (sorted : items.map sortMembers = others.map sortMembers) :
    SameItems items others := by
  cases items with
  | nil =>
      rw [List.map_nil, eq_comm, List.map_eq_nil_iff] at sorted
      rw [sorted]
      exact .nil
  | cons item rest =>
      rw [List.map_cons, eq_comm] at sorted
      obtain ⟨other, more, rfl, head, tail⟩ := List.map_eq_cons_iff.mp sorted
      exact .cons (same_of_sorted item other head.symm) (same_items_of_sorted rest more tail.symm)

theorem same_members_of_perm (members others : List (String × Json))
    (sorted : (members.map sortedInside).Perm (others.map sortedInside)) : SameMembers members others := by
  cases members with
  | nil =>
      have none := List.nil_perm.mp sorted
      rw [List.map_eq_nil_iff.mp none]
      exact .nil
  | cons head rest =>
      obtain ⟨name, value⟩ := head
      have present : sortedInside (name, value) ∈ others.map sortedInside := sorted.subset List.mem_cons_self
      obtain ⟨⟨otherName, other⟩, among, same⟩ := List.mem_map.mp present
      obtain ⟨front, back, rfl⟩ := List.append_of_mem among
      obtain ⟨rfl, content⟩ := Prod.mk.inj same
      have left := sorted.trans (middle_first (otherName, other) front back)
      rw [List.map_cons, same] at left
      exact .cons otherName (same_of_sorted value other content.symm)
        (same_members_of_perm rest (front ++ back) left.cons_inv)
end

theorem sort_each_ascending (members : Members) (distinct : NamesDistinct members) :
    Ascending (sortEach members) := by
  have names : ((sortEach members).map (·.1)).Perm (members.map (·.1)) := by
    have sorted := (sort_perm members).map (·.1)
    rwa [List.map_map] at sorted
  have apart : (sortEach members).Pairwise fun a b => a.1 ≠ b.1 :=
    List.pairwise_map.mp (names.nodup_iff.mpr distinct)
  refine (sort_non_descending members).imp₂ (fun a b notLess different => ?_) apart
  exact Table.lt_of_not_lt_of_ne notLess (Ne.symm different)

mutual
theorem sort_ascends (json : Json) (distinct : json.Distinct) : json.sortMembers.Ascends := by
  cases json with
  | arr items =>
      refine (each_item_iff _ _).mpr fun item among => ?_
      rw [sort_items_map] at among
      obtain ⟨original, present, rfl⟩ := List.mem_map.mp among
      exact items_ascend items distinct original present
  | obj members =>
      refine ⟨sort_each_ascending members distinct.1, (each_member_iff _ _).mpr fun member among => ?_⟩
      obtain ⟨original, present, rfl⟩ := (sort_mem member members).mp among
      exact members_ascend members distinct.2 original present
  | _ => trivial

theorem items_ascend (items : List Json) (distinct : EachItem NamesDistinct items) :
    ∀ item ∈ items, item.sortMembers.Ascends := by
  cases items with
  | nil => exact fun _ among => absurd among List.not_mem_nil
  | cons first rest => exact List.forall_mem_cons.mpr ⟨sort_ascends first distinct.1, items_ascend rest distinct.2⟩

theorem members_ascend (members : List (String × Json))
    (distinct : EachMember NamesDistinct members) :
    ∀ member ∈ members, member.2.sortMembers.Ascends := by
  cases members with
  | nil => exact fun _ among => absurd among List.not_mem_nil
  | cons first rest =>
      obtain ⟨name, value⟩ := first
      exact List.forall_mem_cons.mpr ⟨sort_ascends value distinct.1, members_ascend rest distinct.2⟩
end

-- Ascending members leave no choice of order.
theorem ascending_unique (members others : Members) (ascending : Ascending members) (otherAscending : Ascending others)
    (same : members.Perm others) : members = others :=
  same.eq_of_pairwise (fun _ _ _ _ less greater => absurd (String.lt_trans less greater) (String.lt_irrefl _))
    ascending otherAscending

mutual
theorem sorted_of_same (a b : Json) (same : SameUpToOrder a b) (distinctA : a.Distinct) (distinctB : b.Distinct) :
    a.sortMembers = b.sortMembers := by
  cases a with
  | arr items =>
      cases same with
      | arr each => exact congrArg arr (sorted_of_same_items items _ each distinctA distinctB)
  | obj members =>
      cases same with
      | @obj _ others each =>
          have inside := perm_of_same_members members others each distinctA.2 distinctB.2
          refine congrArg obj (ascending_unique _ _ (sort_each_ascending members distinctA.1)
            (sort_each_ascending others distinctB.1) ?_)
          exact (sort_perm members).trans (inside.trans (sort_perm others).symm)
  | _ => cases same; rfl

theorem sorted_of_same_items (items others : List Json) (same : SameItems items others)
    (distinct : EachItem NamesDistinct items)
    (otherDistinct : EachItem NamesDistinct others) :
    sortItems items = sortItems others := by
  cases items with
  | nil => cases same; rfl
  | cons item rest =>
      cases same with
      | cons head tail =>
          rw [sortItems, sortItems, sorted_of_same item _ head distinct.1 otherDistinct.1,
            sorted_of_same_items rest _ tail distinct.2 otherDistinct.2]

theorem perm_of_same_members (members others : List (String × Json)) (same : SameMembers members others)
    (distinct : EachMember NamesDistinct members)
    (otherDistinct : EachMember NamesDistinct others) :
    (members.map sortedInside).Perm (others.map sortedInside) := by
  cases members with
  | nil => cases same; exact .refl _
  | cons head rest =>
      obtain ⟨name, value⟩ := head
      cases same with
      | @cons _ _ other _ front back sameValue sameRest =>
          have each := (each_member_iff _ _).mp otherDistinct
          have content := sorted_of_same value other sameValue distinct.1
            (each (name, other) (List.mem_append_right front List.mem_cons_self))
          have left := perm_of_same_members rest (front ++ back) sameRest distinct.2
            ((each_member_iff _ _).mpr fun member present => each member (List.mem_append.mpr
              ((List.mem_append.mp present).imp_right (List.mem_cons_of_mem _))))
          rw [List.map_cons, sortedInside, content]
          exact (left.cons _).trans (middle_first (name, other) front back).symm
end

theorem canonical_text_is_faithful (a b : Json) (wholeA : a.Whole) (wholeB : b.Whole) (distinctA : a.Distinct)
    (distinctB : b.Distinct) :
    (a.canonical = b.canonical ↔ SameUpToOrder a b) ∧
      ∃ document : Json, document.Ascends ∧ SameUpToOrder a document ∧ a.canonical = document.compact ∧
        ∀ other : Json, other.Whole → a.canonical = other.compact → other = document := by
  refine ⟨⟨fun same => ?_, fun same => ?_⟩, a.sortMembers, sort_ascends a distinctA, ?_, rfl,
    fun other whole same => ?_⟩
  · exact same_of_sorted a b (canonical_sorted a b wholeA wholeB same)
  · rw [canonical, canonical, sorted_of_same a b same distinctA distinctB]
  · exact same_of_sorted a a.sortMembers (sort_settled a).symm
  · exact compact_injective other a.sortMembers whole (sort_whole a wholeA) same.symm

def nested : Json := .obj [("b", .arr [.obj [("y", ofInt 1), ("x", .str "\"\\\n")], .null]), ("a", ofInt (-2))]

def turned : Json := .obj [("a", ofInt (-2)), ("b", .arr [.obj [("x", .str "\"\\\n"), ("y", ofInt 1)], .null])]

theorem turned_same : SameUpToOrder nested turned := by
  have inner : SameUpToOrder (.obj [("y", ofInt 1), ("x", .str "\"\\\n")])
      (.obj [("x", .str "\"\\\n"), ("y", ofInt 1)]) :=
    .obj (@SameMembers.cons "y" _ _ _ [("x", _)] [] (.num (.int 1)) (@SameMembers.cons "x" _ _ _ [] [] (.str _) .nil))
  exact .obj (@SameMembers.cons "b" _ _ _ [("a", _)] [] (.arr (.cons inner (.cons .null .nil)))
    (@SameMembers.cons "a" _ _ _ [] [] (.num (.int (-2))) .nil))

theorem turned_text_same :
    nested.Whole ∧ turned.Whole ∧ nested.Distinct ∧ turned.Distinct ∧ nested.canonical = turned.canonical := by
  have wholeNested : nested.Whole := by simp [nested, Whole, WholeMembers, WholeItems, ofInt]
  have wholeTurned : turned.Whole := by simp [turned, Whole, WholeMembers, WholeItems, ofInt]
  have distinctNested : nested.Distinct := by
    simp [nested, Distinct, NamesDistinct, EachObject, EachMember, EachItem, ofInt]
  have distinctTurned : turned.Distinct := by
    simp [turned, Distinct, NamesDistinct, EachObject, EachMember, EachItem, ofInt]
  have faithful := canonical_text_is_faithful nested turned wholeNested wholeTurned distinctNested distinctTurned
  exact ⟨wholeNested, wholeTurned, distinctNested, distinctTurned, faithful.1.mpr turned_same⟩

end PlanChain.Json
