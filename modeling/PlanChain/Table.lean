/-! Finite maps from names, kept as entries in strictly ascending order of name, by code point. -/

set_option autoImplicit false

namespace PlanChain

abbrev Ascending {α : Type} (entries : List (String × α)) : Prop :=
  entries.Pairwise fun a b => a.1 < b.1

structure Table (α : Type) where
  entries : List (String × α)
  ascending : Ascending entries

namespace Table

variable {α β : Type}

def empty : Table α := ⟨[], .nil⟩

instance : EmptyCollection (Table α) := ⟨empty⟩
instance : Inhabited (Table α) := ⟨empty⟩

instance [DecidableEq α] : DecidableEq (Table α) := fun a b =>
  decidable_of_iff (a.entries = b.entries)
    ⟨fun same => by cases a; cases b; cases same; rfl, fun same => same ▸ rfl⟩

def find? (name : String) : List (String × α) → Option α
  | [] => none
  | (key, value) :: rest => if name = key then some value else find? name rest

def put (name : String) (value : α) : List (String × α) → List (String × α)
  | [] => [(name, value)]
  | (key, old) :: rest =>
    if name < key then (name, value) :: (key, old) :: rest
    else if name = key then (name, value) :: rest
    else (key, old) :: put name value rest

theorem mem_put {name : String} {value : α} {entries : List (String × α)} {entry : String × α}
    (present : entry ∈ put name value entries) : entry = (name, value) ∨ entry ∈ entries := by
  induction entries with
  | nil => simpa [put] using present
  | cons head rest ih =>
    obtain ⟨key, old⟩ := head
    simp only [put] at present
    split at present
    · simpa using present
    · split at present
      · rcases List.mem_cons.mp present with same | tail
        · exact .inl same
        · exact .inr (List.mem_cons_of_mem _ tail)
      · rcases List.mem_cons.mp present with same | tail
        · exact .inr (same ▸ List.mem_cons_self)
        · exact (ih tail).imp_right (List.mem_cons_of_mem _)

theorem lt_of_not_lt_of_ne {a b : String} (notLess : ¬ a < b) (different : a ≠ b) : b < a :=
  Decidable.byContradiction fun notGreater =>
    different (String.le_antisymm (String.not_lt.mp notGreater) (String.not_lt.mp notLess))

theorem ascending_put (name : String) (value : α) {entries : List (String × α)}
    (ascending : Ascending entries) : Ascending (put name value entries) := by
  induction entries with
  | nil => simp [put]
  | cons head rest ih =>
    obtain ⟨key, old⟩ := head
    obtain ⟨above, tail⟩ := List.pairwise_cons.mp ascending
    simp only [put]
    split
    case isTrue less =>
      refine List.pairwise_cons.mpr ⟨fun entry present => ?_, ascending⟩
      rcases List.mem_cons.mp present with same | inTail
      · exact same ▸ less
      · exact String.lt_trans less (above entry inTail)
    case isFalse notLess =>
      split
      case isTrue same =>
        exact List.pairwise_cons.mpr ⟨fun entry present => same ▸ above entry present, tail⟩
      case isFalse different =>
        refine List.pairwise_cons.mpr ⟨fun entry present => ?_, ih tail⟩
        rcases mem_put present with same | inTail
        · exact same ▸ lt_of_not_lt_of_ne notLess different
        · exact above entry inTail

def get? (table : Table α) (name : String) : Option α := find? name table.entries

def contains (table : Table α) (name : String) : Bool := (table.get? name).isSome

def insert (table : Table α) (name : String) (value : α) : Table α :=
  ⟨put name value table.entries, ascending_put name value table.ascending⟩

def erase (table : Table α) (name : String) : Table α :=
  ⟨table.entries.filter (·.1 ≠ name), table.ascending.filter _⟩

def size (table : Table α) : Nat := table.entries.length

def isEmpty (table : Table α) : Bool := table.entries.isEmpty

def keys (table : Table α) : List String := table.entries.map (·.1)

def values (table : Table α) : List α := table.entries.map (·.2)

-- The table of a list of entries; of two entries with one name the later counts.
def ofList (entries : List (String × α)) : Table α :=
  entries.foldl (fun table entry => table.insert entry.1 entry.2) empty

def map (change : α → β) (table : Table α) : Table β :=
  ⟨table.entries.map fun entry => (entry.1, change entry.2),
    List.pairwise_map.mpr table.ascending⟩

def filter (keep : α → Bool) (table : Table α) : Table α :=
  ⟨table.entries.filter fun entry => keep entry.2, table.ascending.filter _⟩

@[ext] theorem ext {a b : Table α} (same : a.entries = b.entries) : a = b := by
  cases a; cases b; cases same; rfl

theorem find?_put (name other : String) (value : α) (entries : List (String × α)) :
    find? other (put name value entries) = if other = name then some value else find? other entries := by
  induction entries with
  | nil => simp [put, find?]
  | cons head rest ih =>
    obtain ⟨key, old⟩ := head
    simp only [put]
    split
    · simp [find?]
    · split
      case isTrue same =>
        subst same
        by_cases hit : other = name <;> simp [find?, hit]
      case isFalse different =>
        by_cases hit : other = key
        · subst hit
          simp [find?, Ne.symm different]
        · simp [find?, hit, ih]

@[simp] theorem get?_insert (table : Table α) (name other : String) (value : α) :
    (table.insert name value).get? other = if other = name then some value else table.get? other :=
  find?_put name other value table.entries

theorem of_get?_insert {table : Table α} {name other : String} {value found : α}
    (present : (table.insert name value).get? other = some found) :
    other = name ∧ found = value ∨ table.get? other = some found := by
  rw [get?_insert] at present
  split at present
  · rename_i own
    exact .inl ⟨own, (Option.some.inj present).symm⟩
  · exact .inr present

@[simp] theorem contains_insert (table : Table α) (name other : String) (value : α) :
    (table.insert name value).contains other = (decide (other = name) || table.contains other) := by
  rw [contains, get?_insert, contains]
  by_cases own : other = name <;> simp [own]

@[simp] theorem get?_empty (name : String) : (∅ : Table α).get? name = none := rfl

theorem find?_filter_ne (name other : String) (entries : List (String × α)) :
    find? other (entries.filter (·.1 ≠ name)) = if other = name then none else find? other entries := by
  induction entries with
  | nil => simp [find?]
  | cons head rest ih =>
    obtain ⟨key, old⟩ := head
    by_cases same : key = name
    · subst same
      by_cases hit : other = key <;> simp_all [find?]
    · by_cases hit : other = key
      · subst hit
        simp [find?, same]
      · simpa [find?, same, hit] using ih

@[simp] theorem get?_erase (table : Table α) (name other : String) :
    (table.erase name).get? other = if other = name then none else table.get? other :=
  find?_filter_ne name other table.entries

theorem of_get?_erase {table : Table α} {name other : String} {found : α}
    (present : (table.erase name).get? other = some found) : table.get? other = some found := by
  rw [get?_erase] at present
  split at present
  · cases present
  · exact present

theorem find?_eq_none_of_missing {name : String} {entries : List (String × α)}
    (missing : name ∉ entries.map (·.1)) : find? name entries = none := by
  induction entries with
  | nil => rfl
  | cons head rest ih =>
    obtain ⟨key, old⟩ := head
    rw [List.map_cons, List.mem_cons, not_or] at missing
    simp only [find?, if_neg missing.1]
    exact ih missing.2

theorem find?_eq_none_of_below {name : String} {entries : List (String × α)}
    (below : ∀ entry ∈ entries, name < entry.1) : find? name entries = none := by
  refine find?_eq_none_of_missing fun present => ?_
  obtain ⟨entry, isEntry, same⟩ := List.mem_map.mp present
  exact String.lt_irrefl _ (same ▸ below entry isEntry)

theorem entries_eq_of_find? {a b : List (String × α)} (ascendingA : Ascending a)
    (ascendingB : Ascending b) (same : ∀ name, find? name a = find? name b) : a = b := by
  induction a generalizing b with
  | nil =>
    cases b with
    | nil => rfl
    | cons head rest => simpa [find?] using same head.1
  | cons headA restA ih =>
    obtain ⟨keyA, valueA⟩ := headA
    obtain ⟨aboveA, tailA⟩ := List.pairwise_cons.mp ascendingA
    cases b with
    | nil => simpa [find?] using same keyA
    | cons headB restB =>
      obtain ⟨keyB, valueB⟩ := headB
      obtain ⟨aboveB, tailB⟩ := List.pairwise_cons.mp ascendingB
      have sameKey : keyA = keyB := by
        by_cases hit : keyA = keyB
        · exact hit
        exfalso
        by_cases less : keyA < keyB
        · have missing : find? keyA restB = none :=
            find?_eq_none_of_below fun entry present => String.lt_trans less (aboveB entry present)
          simpa [find?, hit, missing] using same keyA
        · have less := lt_of_not_lt_of_ne less hit
          have missing : find? keyB restA = none :=
            find?_eq_none_of_below fun entry present => String.lt_trans less (aboveA entry present)
          simpa [find?, Ne.symm hit, missing] using same keyB
      subst sameKey
      have sameValue : valueA = valueB := by simpa [find?] using same keyA
      subst sameValue
      have missingA : find? keyA restA = none := find?_eq_none_of_below aboveA
      have missingB : find? keyA restB = none := find?_eq_none_of_below aboveB
      have rest : restA = restB := ih tailA tailB fun name => by
        by_cases hit : name = keyA
        · rw [hit, missingA, missingB]
        · simpa [find?, hit] using same name
      rw [rest]

theorem ext_get? {a b : Table α} (same : ∀ name, a.get? name = b.get? name) : a = b :=
  ext (entries_eq_of_find? a.ascending b.ascending same)

@[simp] theorem insert_insert (table : Table α) (name : String) (old value : α) :
    (table.insert name old).insert name value = table.insert name value := by
  refine ext_get? fun other => ?_
  rw [get?_insert, get?_insert, get?_insert]
  split <;> rfl

theorem insert_same (table : Table α) (name : String) (value : α) (known : table.get? name = some value) :
    table.insert name value = table := by
  refine ext_get? fun other => ?_
  rw [get?_insert]
  split
  · rename_i own
    rw [own, known]
  · rfl

theorem names_distinct (table : Table α) : (table.entries.map (·.1)).Nodup :=
  table.ascending.map _ fun _ _ less equal => String.lt_irrefl _ (equal ▸ less)

theorem of_entries_get? (table start : Table α) (entries : List (String × α))
    (agree : ∀ entry ∈ entries, table.get? entry.1 = some entry.2) (name : String) :
    (entries.foldl (fun made entry => made.insert entry.1 entry.2) start).get? name =
      if name ∈ entries.map (·.1) then table.get? name else start.get? name := by
  induction entries generalizing start with
  | nil => simp
  | cons entry rest ih =>
      have head := agree entry List.mem_cons_self
      rw [List.foldl_cons, ih _ fun other present => agree other (List.mem_cons_of_mem _ present), get?_insert]
      by_cases inRest : name ∈ rest.map (·.1)
      · simp [inRest]
      · by_cases isHead : name = entry.1
        · simp [isHead, head]
        · simp [inRest, isHead]

theorem of_list_agreeing (table : Table α) (entries : List (String × α))
    (agree : ∀ entry ∈ entries, table.get? entry.1 = some entry.2)
    (named : ∀ name, (table.get? name).isSome → name ∈ entries.map (·.1)) : ofList entries = table := by
  refine ext_get? fun name => ?_
  rw [ofList, of_entries_get? table _ entries agree]
  by_cases present : name ∈ entries.map (·.1)
  · rw [if_pos present]
  · rw [if_neg present]
    have absent : table.get? name = none := by
      rw [← Option.not_isSome_iff_eq_none]
      exact fun isSome => present (named name isSome)
    rw [absent]
    rfl

theorem find?_of_mem (entries : List (String × α)) (ascending : Ascending entries) (entry : String × α)
    (present : entry ∈ entries) : find? entry.1 entries = some entry.2 := by
  induction entries with
  | nil => cases present
  | cons head rest ih =>
      obtain ⟨below, tail⟩ := List.pairwise_cons.mp ascending
      rcases List.mem_cons.mp present with rfl | inRest
      · simp [find?]
      · have later : head.1 ≠ entry.1 := fun same => String.lt_irrefl _ (same ▸ below entry inRest)
        obtain ⟨key, value⟩ := head
        rw [find?, if_neg (Ne.symm later)]
        exact ih tail inRest

theorem of_list_get? (entries : List (String × α)) (distinct : (entries.map (·.1)).Nodup) (name : String) :
    (ofList entries).get? name = find? name entries := by
  have grown : ∀ start : Table α,
      (entries.foldl (fun made entry => made.insert entry.1 entry.2) start).get? name =
        (find? name entries).or (start.get? name) := by
    induction entries with
    | nil => exact fun start => rfl
    | cons entry rest ih =>
        intro start
        obtain ⟨fresh, restDistinct⟩ := List.nodup_cons.mp distinct
        obtain ⟨key, value⟩ := entry
        rw [List.foldl_cons, ih restDistinct, get?_insert, find?]
        by_cases hit : name = key
        · rw [hit]
          simp [find?_eq_none_of_missing fresh]
        · simp [hit]
  rw [ofList, grown]
  exact Option.or_none

theorem find?_map {β : Type} (change : α → β) (entries : List (String × α)) (name : String) :
    find? name (entries.map fun entry => (entry.1, change entry.2)) = (find? name entries).map change := by
  induction entries with
  | nil => rfl
  | cons head rest ih =>
      rw [List.map_cons, find?, find?, ih]
      split <;> rfl

@[simp] theorem get?_map {β : Type} (change : α → β) (table : Table α) (name : String) :
    (table.map change).get? name = (table.get? name).map change :=
  find?_map change table.entries name

theorem mem_keys_iff (table : Table α) (name : String) : name ∈ table.keys ↔ table.contains name = true := by
  constructor
  · intro present
    obtain ⟨entry, isEntry, rfl⟩ := List.mem_map.mp present
    rw [contains, get?, find?_of_mem table.entries table.ascending entry isEntry, Option.isSome_some]
  · intro found
    refine Decidable.byContradiction fun missing => ?_
    rw [contains, get?, find?_eq_none_of_missing missing, Option.isSome_none] at found
    cases found

theorem put_fresh {name : String} (value : α) {entries : List (String × α)} (missing : find? name entries = none) :
    (put name value entries).Perm ((name, value) :: entries) := by
  induction entries with
  | nil => exact .refl _
  | cons head rest ih =>
      obtain ⟨key, old⟩ := head
      rw [find?] at missing
      split at missing
      · cases missing
      · rename_i different
        rw [put, if_neg different]
        split
        · exact .refl _
        · exact ((ih missing).cons _).trans (.swap _ _ _)

theorem put_known (view : α → β) {name : String} {value old : α} {entries : List (String × α)}
    (ascending : Ascending entries) (known : find? name entries = some old) (alike : view value = view old) :
    (put name value entries).map (fun entry => view entry.2) = entries.map fun entry => view entry.2 := by
  induction entries with
  | nil => cases known
  | cons head rest ih =>
      obtain ⟨key, held⟩ := head
      obtain ⟨above, tail⟩ := List.pairwise_cons.mp ascending
      rw [find?] at known
      split at known
      · rename_i same
        cases known
        simp [put, same, alike]
      · rename_i different
        have notBelow : ¬ name < key := by
          intro below
          have missing := find?_eq_none_of_below fun entry present => String.lt_trans below (above entry present)
          rw [known] at missing
          cases missing
        simp [put, notBelow, different, ih tail known]

theorem keys_insert (table : Table α) (name : String) (value : α) (fresh : table.contains name = false) :
    (table.insert name value).keys.Perm (name :: table.keys) := by
  rw [contains, Option.isSome_eq_false_iff, Option.isNone_iff_eq_none] at fresh
  exact (put_fresh value fresh).map _

theorem values_insert_fresh (table : Table α) (name : String) (value : α) (fresh : table.get? name = none) :
    (table.insert name value).values.Perm (value :: table.values) :=
  (put_fresh value fresh).map _

theorem values_insert_known (view : α → β) (table : Table α) (name : String) (value old : α)
    (known : table.get? name = some old) (alike : view value = view old) :
    (table.insert name value).values.map view = table.values.map view := by
  rw [values, values, List.map_map, List.map_map]
  exact put_known view table.ascending known alike

theorem size_insert (table : Table α) (name : String) (value : α) :
    (table.insert name value).size = if table.contains name then table.size else table.size + 1 := by
  have sizes (table : Table α) : table.values.length = table.size := List.length_map _
  cases found : table.get? name with
  | none =>
      have grown := (values_insert_fresh table name value found).length_eq
      rw [List.length_cons, sizes, sizes] at grown
      simp [contains, found, grown]
  | some old =>
      have same := congrArg List.length (values_insert_known (fun _ => ()) table name value old found rfl)
      rw [List.length_map, List.length_map, sizes, sizes] at same
      simp [contains, found, same]

end Table

end PlanChain
