import PlanChain.Json.Decoder
import PlanChain.Proofs.Json.Order
import PlanChain.Proofs.Plan.Wire

set_option autoImplicit false

namespace PlanChain

variable {α : Type}

-- The same members but for their order, and the order inside them.
def Members.Reordered (members written : Members) : Prop := Json.sortEach members = Json.sortEach written

namespace Json

def Reordered (json written : Json) : Prop := json.sortMembers = written.sortMembers

def Survives (encode : α → Json) (decode : Json → Option α) : Prop :=
  ∀ value json, json.Reordered (encode value) → decode json = some value

theorem reordered_object (json : Json) (written : Members) (same : json.Reordered (.obj written)) :
    ∃ members : Members, json = .obj members ∧ members.Reordered written := by
  cases json with
  | obj members => exact ⟨members, rfl, Json.obj.inj same⟩
  | _ => cases same

theorem reordered_array (json : Json) (written : List Json) (same : json.Reordered (.arr written)) :
    ∃ items, json = .arr items ∧ items.map sortMembers = written.map sortMembers := by
  cases json with
  | arr items =>
      refine ⟨items, rfl, ?_⟩
      rw [← sort_items_map, ← sort_items_map]
      exact Json.arr.inj same
  | _ => cases same

theorem reordered_plain (json written : Json) (plain : written.Plain) (same : json.Reordered written) :
    json = written := by
  rw [Reordered, plain_settled written plain] at same
  cases json with
  | arr items =>
      rw [← same] at plain
      exact plain.elim
  | obj members =>
      rw [← same] at plain
      exact plain.elim
  | _ => exact same

theorem plain_survives (encode : α → Json) (decode : Json → Option α) (plain : ∀ value, (encode value).Plain)
    (read : ∀ value, decode (encode value) = some value) : Survives encode decode := by
  intro value json same
  rw [reordered_plain json _ (plain value) same, read]

theorem string_survives : Survives str string? := plain_survives _ _ (fun _ => trivial) fun _ => rfl

theorem bool_survives : Survives bool bool? := plain_survives _ _ (fun _ => trivial) fun _ => rfl

theorem int64_survives : Survives ofInt64 int64? := plain_survives _ _ (fun _ => trivial) written_int64

theorem uint32_survives : Survives ofUInt32 uint32? := plain_survives _ _ (fun _ => trivial) written_uint32

theorem written_uint64 (value : UInt64) : (Json.ofUInt64 value).uint64? = some value := by
  have inRange : (0 : Int) ≤ value.toNat ∧ (value.toNat : Int) < UInt64.size :=
    ⟨Int.natCast_nonneg _, Int.ofNat_lt.mpr value.toNat_lt_size⟩
  have read : (Json.ofUInt64 value).uint64? = Word.uint64? value.toNat := by
    rw [Json.ofUInt64, Json.ofNat, Json.uint64?, Json.int?, Option.bind_some]
  have same : UInt64.ofNat (value.toNat : Int).toNat = value := UInt64.ofNat_toNat
  rw [read, Word.uint64?, if_pos inRange, same]

theorem uint64_survives : Survives ofUInt64 uint64? := plain_survives _ _ (fun _ => trivial) written_uint64

theorem list_survives (encode : α → Json) (decode : Json → Option α) (survives : Survives encode decode) :
    Survives (fun values : List α => arr (values.map encode)) (list? decode) := by
  intro values json same
  obtain ⟨items, rfl, sorted⟩ := reordered_array json _ same
  clear same
  rw [list?, items?, Option.bind_some]
  induction values generalizing items with
  | nil =>
      rw [List.map_nil, List.map_nil, List.map_eq_nil_iff] at sorted
      rw [sorted]
      rfl
  | cons value rest ih =>
      rw [List.map_cons, List.map_cons] at sorted
      obtain ⟨item, others, rfl, head, tail⟩ := List.map_eq_cons_iff.mp sorted
      have read : decode item = some value := survives value item head
      have restRead := ih others tail
      simp [read, restRead]

theorem place_perm (member : String × Json) (members : Members) :
    (placeMember member members).Perm (member :: members) := by
  induction members with
  | nil => exact List.Perm.refl _
  | cons head rest ih =>
      by_cases less : head.1 < member.1
      · rw [placeMember, if_pos less]
        exact (ih.cons head).trans (List.Perm.swap member head rest)
      · rw [placeMember, if_neg less]

theorem sort_perm (members : Members) :
    (sortEach members).Perm (members.map fun member => (member.1, member.2.sortMembers)) := by
  induction members with
  | nil => exact List.Perm.refl _
  | cons head rest ih => exact (place_perm _ _).trans (ih.cons _)

theorem place_mem (member other : String × Json) (members : Members) :
    other ∈ placeMember member members ↔ other = member ∨ other ∈ members := by
  rw [(place_perm member members).mem_iff, List.mem_cons]

theorem sort_mem (member : String × Json) (members : Members) :
    member ∈ sortEach members ↔ ∃ original ∈ members, member = (original.1, original.2.sortMembers) := by
  rw [(sort_perm members).mem_iff, List.mem_map]
  simp only [eq_comm]

def NonDescending (members : Members) : Prop := members.Pairwise fun first second => ¬ second.1 < first.1

theorem place_non_descending (member : String × Json) (members : Members) (sorted : NonDescending members) :
    NonDescending (placeMember member members) := by
  induction members with
  | nil => exact List.pairwise_singleton _ _
  | cons head rest ih =>
      obtain ⟨below, restSorted⟩ := List.pairwise_cons.mp sorted
      by_cases less : head.1 < member.1
      · rw [placeMember, if_pos less]
        refine List.pairwise_cons.mpr ⟨fun other among => ?_, ih restSorted⟩
        rcases (place_mem member other rest).mp among with rfl | later
        · exact fun greater => String.lt_irrefl _ (String.lt_trans less greater)
        · exact below other later
      · rw [placeMember, if_neg less]
        refine List.pairwise_cons.mpr ⟨fun other among => ?_, sorted⟩
        rcases List.mem_cons.mp among with rfl | later
        · exact less
        · exact fun lesser => below other later (Std.lt_of_lt_of_le lesser (String.not_lt.mp less))

theorem sort_non_descending (members : Members) : NonDescending (sortEach members) := by
  induction members with
  | nil => exact List.Pairwise.nil
  | cons head rest ih => exact place_non_descending _ _ ih

theorem non_descending_stays (members : Members) (sorted : NonDescending members)
    (settled : ∀ member ∈ members, member.2.sortMembers = member.2) : sortEach members = members := by
  induction members with
  | nil => rfl
  | cons head rest ih =>
      obtain ⟨below, restSorted⟩ := List.pairwise_cons.mp sorted
      have restStays := ih restSorted fun member present => settled member (List.mem_cons_of_mem _ present)
      have valueStays : head.2.sortMembers = head.2 := settled head List.mem_cons_self
      rw [sortEach, restStays, valueStays]
      cases rest with
      | nil => rfl
      | cons next others => rw [placeMember, if_neg (below next List.mem_cons_self)]

mutual
theorem sort_settled (json : Json) : json.sortMembers.sortMembers = json.sortMembers := by
  cases json with
  | arr items =>
      refine items_stay _ fun item among => ?_
      rw [sort_items_map] at among
      obtain ⟨original, present, rfl⟩ := List.mem_map.mp among
      exact items_settled items original present
  | obj members =>
      refine congrArg obj (non_descending_stays _ (sort_non_descending members) fun member among => ?_)
      obtain ⟨original, present, rfl⟩ := (sort_mem member members).mp among
      exact members_settled members original present
  | _ => rfl

theorem items_settled (items : List Json) : ∀ item ∈ items, item.sortMembers.sortMembers = item.sortMembers := by
  cases items with
  | nil => exact fun _ among => absurd among List.not_mem_nil
  | cons first rest => exact List.forall_mem_cons.mpr ⟨sort_settled first, items_settled rest⟩

theorem members_settled (members : List (String × Json)) :
    ∀ member ∈ members, member.2.sortMembers.sortMembers = member.2.sortMembers := by
  cases members with
  | nil => exact fun _ among => absurd among List.not_mem_nil
  | cons first rest =>
      obtain ⟨name, value⟩ := first
      exact List.forall_mem_cons.mpr ⟨sort_settled value, members_settled rest⟩
end

end Json

namespace Members

variable {members written : Members}

theorem Reordered.found (same : members.Reordered written) (name : String) (value : Json)
    (present : written.get? name = some value) :
    ∃ found, members.get? name = some found ∧ found.Reordered value := by
  have sorted : (members.get? name).map Json.sortMembers = (written.get? name).map Json.sortMembers := by
    rw [← Json.sort_get?, same, Json.sort_get?]
  rw [present, Option.map_some, Option.map_eq_some_iff] at sorted
  exact sorted

theorem Reordered.missing (same : members.Reordered written) (name : String) (absent : written.get? name = none) :
    members.get? name = none := by
  have sorted : (members.get? name).map Json.sortMembers = (written.get? name).map Json.sortMembers := by
    rw [← Json.sort_get?, same, Json.sort_get?]
  rwa [absent, Option.map_none, Option.map_eq_none_iff] at sorted

theorem Reordered.required (same : members.Reordered written) (name : String) (value : α) (encode : α → Json)
    (decode : Json → Option α) (survives : Json.Survives encode decode)
    (present : written.get? name = some (encode value)) : members.required name decode = some value := by
  obtain ⟨found, isFound, reordered⟩ := same.found name (encode value) present
  rw [required_found members name found decode isFound, survives value found reordered]

theorem Reordered.optional (same : members.Reordered written) (name : String) (value : Option α)
    (encode : α → Json) (decode : Json → Option α) (survives : Json.Survives encode decode)
    (filled : ∀ value, encode value ≠ .null) (present : written.get? name = value.map encode) :
    members.optional name decode = some value := by
  cases value with
  | none => rw [Members.optional, same.missing name present]
  | some value =>
      obtain ⟨found, isFound, reordered⟩ := same.found name (encode value) present
      have notNull : found ≠ .null := by
        rintro rfl
        exact filled value (Json.reordered_plain (encode value) .null trivial reordered.symm)
      rw [Members.optional, isFound]
      cases found with
      | null => exact (notNull rfl).elim
      | _ => simp only [survives value _ reordered, Option.map_some]

end Members

namespace Json

theorem members_get? (members : Members) (name : String) : members.get? name = Table.find? name members := by
  induction members with
  | nil => rfl
  | cons head rest ih =>
      rw [Members.get?, Table.find?, ih]
      simp [eq_comm]

theorem get?_named (members : Members) (name : String) (value : Json) (found : members.get? name = some value) :
    name ∈ members.map (·.1) := by
  induction members with
  | nil => cases found
  | cons head rest ih =>
      by_cases hit : head.1 = name
      · simp [hit]
      · rw [Members.get?, if_neg hit] at found
        exact List.mem_cons_of_mem _ (ih found)

theorem decoded_members (members : Members) (decode : Json → Option α) (table : Table α)
    (each : ∀ member ∈ members, ∃ value, decode member.2 = some value ∧ table.get? member.1 = some value) :
    ∃ entries : List (String × α),
      (members.mapM fun member => (decode member.2).map (member.1, ·)) = some entries ∧
        entries.map (·.1) = members.map (·.1) ∧ ∀ entry ∈ entries, table.get? entry.1 = some entry.2 := by
  induction members with
  | nil => exact ⟨[], rfl, rfl, by simp⟩
  | cons member rest ih =>
      obtain ⟨value, read, known⟩ := each member List.mem_cons_self
      obtain ⟨entries, restRead, names, agree⟩ := ih fun other present => each other (List.mem_cons_of_mem _ present)
      refine ⟨(member.1, value) :: entries, ?_, ?_, ?_⟩
      · simp [read, restRead]
      · rw [List.map_cons, List.map_cons, names]
      · exact List.forall_mem_cons.mpr ⟨known, agree⟩

theorem table_survives (encode : α → Json) (decode : Json → Option α) (survives : Survives encode decode) :
    Survives (ofTable encode) (table? decode) := by
  intro table json same
  obtain ⟨members, rfl, reordered⟩ := reordered_object json _ same
  have each : ∀ member ∈ members, ∃ value, decode member.2 = some value ∧ table.get? member.1 = some value := by
    intro member present
    have sorted : (member.1, member.2.sortMembers) ∈ sortEach (table.map encode).entries := by
      rw [← reordered]
      exact (sort_mem _ members).mpr ⟨member, present, rfl⟩
    obtain ⟨original, isOriginal, equal⟩ := (sort_mem _ _).mp sorted
    obtain ⟨entry, isEntry, rfl⟩ := List.mem_map.mp isOriginal
    obtain ⟨name, content⟩ := Prod.mk.inj equal
    refine ⟨entry.2, survives entry.2 member.2 content, ?_⟩
    rw [name]
    exact Table.find?_of_mem table.entries table.ascending entry isEntry
  obtain ⟨entries, read, names, agree⟩ := decoded_members members decode table each
  rw [table?, members?, Option.bind_some, read, Option.map_some]
  refine congrArg some (Table.of_list_agreeing table entries agree fun name isSome => ?_)
  obtain ⟨value, known⟩ := Option.isSome_iff_exists.mp isSome
  have written : Members.get? (table.map encode).entries name = some (encode value) := by
    rw [members_get?]
    exact (Table.get?_map encode table name).trans (congrArg (Option.map encode) known)
  obtain ⟨found, isFound, -⟩ := reordered.found name (encode value) written
  rw [names]
  exact get?_named members name found isFound

end Json
end PlanChain
