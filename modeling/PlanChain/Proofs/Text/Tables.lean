import PlanChain.Text.Normal

set_option autoImplicit false

namespace PlanChain.Text

variable {α β : Type}

def isSchemeLetter (c : Char) : Bool := ['h', 't', 'p', 's', ':', '/'].contains c

def isFixed (c : Char) : Bool := isBlank c || isSchemeLetter c

section Lookup

variable [BEq α] [Hashable α] [LawfulBEq α] [LawfulHashable α]

theorem lookup_inserted (entries : List (α × β)) (key : α) (value : β) (map : Std.HashMap α β)
    (found : (map.insertMany entries)[key]? = some value) :
    (key, value) ∈ entries ∨ map[key]? = some value := by
  induction entries generalizing map with
  | nil => exact Or.inr (by simpa using found)
  | cons entry rest ih =>
      obtain ⟨name, content⟩ := entry
      rw [Std.HashMap.insertMany_cons] at found
      rcases ih (map.insert name content) found with later | here
      · exact Or.inl (List.mem_cons_of_mem _ later)
      · rw [Std.HashMap.getElem?_insert] at here
        by_cases hit : (name == key) = true
        · rw [if_pos hit] at here
          cases here
          rw [eq_of_beq hit]
          exact Or.inl List.mem_cons_self
        · rw [if_neg hit] at here
          exact Or.inr here

theorem lookup_listed (entries : List (α × β)) (key : α) (value : β)
    (found : (Std.HashMap.ofList entries)[key]? = some value) : (key, value) ∈ entries := by
  rw [Std.HashMap.ofList_eq_insertMany_empty] at found
  rcases lookup_inserted entries key value ∅ found with listed | missing
  · exact listed
  · simp at missing

end Lookup

-- What decomposes keeps apart from scheme letters: it is never replaced by one alone, and one that it
-- starts with is followed by something else. Nothing but a blank is replaced by a blank.
def KeepsFixed (source : Char) : List Char → Prop
  | [] => False
  | [part] => isSchemeLetter part = false ∧ isBlank part = isBlank source
  | part :: next :: _ =>
    part ≠ '/' ∧ isSchemeLetter next = false ∧ isBlank part = false ∧ isBlank source = false

instance (source : Char) (parts : List Char) : Decidable (KeepsFixed source parts) := by
  unfold KeepsFixed
  split <;> infer_instance

-- What the rows of the tables say of fixed characters. Each field looks at every row once.
structure FixedRows : Prop where
  composites : ∀ row ∈ compositeList, isFixed row.2 = false ∧ isBlank (Char.ofNat row.1.2) = false
  classes : ∀ row ∈ combiningClassList, isFixed (Char.ofNat row.1) = false
  decompositions : ∀ row ∈ decompositionList, KeepsFixed (Char.ofNat row.1) row.2

theorem fixed_rows : FixedRows where
  composites := by decide +kernel
  classes := by decide +kernel
  decompositions := by decide +kernel

theorem is_blank_below (c : Char) (blank : isBlank c = true) : c.toNat ≤ 0x3000 := by
  simp only [isBlank, Bool.or_eq_true, Bool.and_eq_true, decide_eq_true_eq] at blank
  omega

theorem scheme_letter_below (c : Char) (letter : isSchemeLetter c = true) : c.toNat ≤ 0x74 := by
  simp only [isSchemeLetter, List.contains_eq_mem, decide_eq_true_eq, List.mem_cons, List.not_mem_nil,
    or_false] at letter
  rcases letter with rfl | rfl | rfl | rfl | rfl | rfl <;> decide

theorem char_of_nat (code : Nat) (valid : code.isValidChar) : (Char.ofNat code).toNat = code := by
  rw [Char.ofNat, dif_pos valid]
  rfl

theorem hangul_not_fixed (code : Nat) (low : 0x10FF < code) (noBlank : code ≠ 0x1680)
    (high : code < 0xD800) (apart : code < 0x2000 ∨ 0x3000 < code) :
    isFixed (Char.ofNat code) = false := by
  have number := char_of_nat code (Or.inl high)
  refine Bool.or_eq_false_iff.mpr ⟨?_, ?_⟩
  · simp only [isBlank, number, Bool.or_eq_false_iff, Bool.and_eq_false_iff, decide_eq_false_iff_not]
    omega
  · rw [← Bool.not_eq_true]
    intro letter
    have := scheme_letter_below _ letter
    omega

theorem hangul_compose_cases (first second composite : Char)
    (composed : Hangul.compose? first second = some composite) :
    ∃ code, Char.ofNat code = composite ∧ 0xAC00 ≤ code ∧ code < 0xD7A4 ∧
      0x1161 ≤ second.toNat ∧ second.toNat < 0x11C3 := by
  unfold Hangul.compose? at composed
  dsimp only at composed
  split at composed
  · rename_i pair
    refine ⟨_, Option.some.inj composed, ?_⟩
    simp only [Hangul.leadBase, Hangul.leadCount, Hangul.vowelBase, Hangul.vowelCount,
      Hangul.syllableBase, Hangul.tailCount] at pair ⊢
    omega
  · obtain ⟨pair, same⟩ := Option.ite_none_right_eq_some.mp composed
    refine ⟨_, Option.some.inj same, ?_⟩
    simp only [Hangul.leadCount, Hangul.vowelCount, Hangul.syllableBase, Hangul.syllableCount,
      Hangul.tailBase, Hangul.tailCount] at pair ⊢
    omega

theorem composite_not_fixed (first second composite : Char)
    (composed : compose? first second = some composite) : isFixed composite = false := by
  unfold compose? at composed
  split at composed
  · rename_i syllable found
    cases composed
    obtain ⟨code, rfl, low, high, -⟩ := hangul_compose_cases first second _ found
    apply hangul_not_fixed <;> omega
  · rw [Std.HashMap.get?_eq_getElem?] at composed
    exact (fixed_rows.composites _ (lookup_listed compositeList _ composite composed)).1

theorem compose_blank (first second : Char) (blank : isBlank second = true) :
    compose? first second = none := by
  cases composed : compose? first second with
  | none => rfl
  | some composite =>
      have visible : isBlank second = false := by
        unfold compose? at composed
        split at composed
        · rename_i syllable found
          obtain ⟨-, -, -, -, low, high⟩ := hangul_compose_cases first second syllable found
          have number := hangul_not_fixed second.toNat (by omega) (by omega) (by omega) (by omega)
          rw [Char.ofNat_toNat] at number
          exact (Bool.or_eq_false_iff.mp number).1
        · rw [Std.HashMap.get?_eq_getElem?] at composed
          have row := (fixed_rows.composites _ (lookup_listed compositeList _ composite composed)).2
          rwa [Char.ofNat_toNat] at row
      rw [visible] at blank
      cases blank

theorem fixed_starter (c : Char) (fixed : isFixed c = true) : combiningClass c = 0 := by
  have absent : (combiningClassList.map Prod.fst).contains c.toNat = false := by
    rw [List.contains_eq_mem, decide_eq_false_iff_not]
    intro listed
    obtain ⟨row, present, same⟩ := List.mem_map.mp listed
    have := fixed_rows.classes row present
    rw [same, Char.ofNat_toNat, fixed] at this
    cases this
  exact Std.HashMap.getD_ofList_of_contains_eq_false absent

theorem hangul_decompose_keeps_fixed (c : Char) (jamo : List Char)
    (found : Hangul.decompose? c = some jamo) : KeepsFixed c jamo := by
  unfold Hangul.decompose? at found
  dsimp only at found
  split at found
  · cases found
  · rename_i inside
    cases found
    simp only [Hangul.syllableBase, Hangul.syllableCount, Hangul.leadCount, Hangul.vowelCount,
      Hangul.tailCount] at inside
    have lead : isFixed (Char.ofNat (Hangul.leadBase +
        (c.toNat - Hangul.syllableBase) / (Hangul.vowelCount * Hangul.tailCount))) = false := by
      apply hangul_not_fixed <;>
        simp only [Hangul.leadBase, Hangul.syllableBase, Hangul.vowelCount, Hangul.tailCount] <;> omega
    have vowel : isFixed (Char.ofNat (Hangul.vowelBase + (c.toNat - Hangul.syllableBase) %
        (Hangul.vowelCount * Hangul.tailCount) / Hangul.tailCount)) = false := by
      apply hangul_not_fixed <;>
        simp only [Hangul.vowelBase, Hangul.syllableBase, Hangul.vowelCount, Hangul.tailCount] <;> omega
    have visible : isBlank c = false := by
      rw [← Bool.not_eq_true]
      intro blank
      have := is_blank_below c blank
      omega
    refine ⟨?_, (Bool.or_eq_false_iff.mp vowel).2, (Bool.or_eq_false_iff.mp lead).1, visible⟩
    intro slash
    rw [slash] at lead
    exact absurd lead (by decide)

theorem decompose_keeps_fixed (c : Char) : decompose c = [c] ∨ KeepsFixed c (decompose c) := by
  unfold decompose
  split
  · rename_i jamo found
    exact Or.inr (hangul_decompose_keeps_fixed c jamo found)
  · rw [Std.HashMap.get?_eq_getElem?]
    cases found : decompositions[c.toNat]? with
    | none => exact Or.inl rfl
    | some parts =>
        have row := fixed_rows.decompositions _ (lookup_listed decompositionList _ parts found)
        rw [Char.ofNat_toNat] at row
        exact Or.inr row

end PlanChain.Text
