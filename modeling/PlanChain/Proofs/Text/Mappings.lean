import Mathlib.Data.List.Chain
import PlanChain.Proofs.Text.Tables

set_option autoImplicit false

namespace PlanChain.Text

-- A set of code points as the bits of one number, so that the rows of a table are looked up at once.
def codeSet (codes : List Nat) : Nat := codes.foldr (fun code set => (1 <<< code) ||| set) 0

@[simp] theorem code_set_bit (codes : List Nat) (code : Nat) :
    (codeSet codes).testBit code = decide (code ∈ codes) := by
  induction codes with
  | nil => simp [codeSet]
  | cons head rest ih =>
      have split : (codeSet (head :: rest)).testBit code =
          ((1 <<< head).testBit code || (codeSet rest).testBit code) := Nat.testBit_or _ _ _
      have one : (1 <<< head).testBit code = decide (code = head) := by
        rw [Nat.one_shiftLeft, Nat.testBit_two_pow]
        exact decide_eq_decide.mpr eq_comm
      rw [split, one, ih]
      simp

def decomposable : Nat := codeSet (decompositionTable.map Prod.fst)

def baseRows : List (Nat × List Nat) :=
  let bases := codeSet (compositeTable.map (·.2.1))
  decompositionTable.filter fun row => bases.testBit row.1

def baseParts (code : Nat) : List Nat :=
  if decomposable.testBit code then (baseRows.lookup code).getD [code] else [code]

-- What the rows of the tables say. Each field looks at every row once.
structure TableRows : Prop where
  ascend : (decompositionTable.map Prod.fst).IsChain (· < ·)
  sources : ∀ row ∈ decompositionTable,
    row.1 < 0x1100 ∨ (0x1200 ≤ row.1 ∧ row.1 < 0xAC00) ∨ (0xE000 ≤ row.1 ∧ row.1 < 0x110000)
  parts : ∀ row ∈ decompositionTable, ∀ part ∈ row.2, decomposable.testBit part = false ∧
    (part < 0xAC00 ∨ (0xE000 ≤ part ∧ part < 0x110000))
  pairs : ∀ row ∈ compositeTable, decomposable.testBit row.2.2 = false ∧
    (row.2.1 < 0xAC00 ∨ 0xE000 ≤ row.2.1) ∧ (row.2.2 < 0xAC00 ∨ 0xE000 ≤ row.2.2)
  composites :
    List.Sublist (compositeTable.map fun row => (row.1, baseParts row.2.1 ++ [row.2.2])) decompositionTable

set_option maxRecDepth 20000 in
theorem table_rows : TableRows where
  ascend := by decide +kernel
  sources := by decide +kernel
  parts := by decide +kernel
  pairs := by decide +kernel
  composites := by decide +kernel

theorem source_code (row : Nat × List Nat) (listed : row ∈ decompositionTable) :
    (Char.ofNat row.1).toNat = row.1 := by
  have range := table_rows.sources row listed
  exact char_of_nat row.1 (by unfold Nat.isValidChar; omega)

theorem sources_distinct :
    decompositionList.Pairwise fun a b => (a.1 == b.1) = false := by
  have ascend : (decompositionTable.map Prod.fst).Pairwise (· < ·) :=
    List.isChain_iff_pairwise.mp table_rows.ascend
  rw [decompositionList, List.pairwise_map]
  refine (List.pairwise_map.mp ascend).imp fun less => ?_
  simp only [beq_eq_false_iff_ne, ne_eq]
  omega

theorem not_hangul (c : Char) (apart : c.toNat < 0xAC00 ∨ 0xD7A4 ≤ c.toNat) : Hangul.decompose? c = none := by
  have outside : c.toNat < Hangul.syllableBase ∨ Hangul.syllableBase + Hangul.syllableCount ≤ c.toNat := by
    simp only [Hangul.syllableBase, Hangul.syllableCount, Hangul.leadCount, Hangul.vowelCount, Hangul.tailCount]
    omega
  rw [Hangul.decompose?, if_pos outside]

theorem decompose_listed (c : Char) (parts : List Nat) (listed : (c.toNat, parts) ∈ decompositionTable) :
    decompose c = parts.map Char.ofNat := by
  have range := table_rows.sources _ listed
  have found : decompositions[c.toNat]? = some (parts.map Char.ofNat) :=
    Std.HashMap.getElem?_ofList_of_mem (beq_self_eq_true c.toNat) sources_distinct
      (List.mem_map_of_mem (f := fun row : Nat × List Nat => (row.1, row.2.map Char.ofNat)) listed)
  rw [decompose, not_hangul c (by omega), Std.HashMap.get?_eq_getElem?, found]
  rfl

theorem decompose_unlisted (c : Char) (unlisted : decomposable.testBit c.toNat = false)
    (apart : c.toNat < 0xAC00 ∨ 0xD7A4 ≤ c.toNat) : decompose c = [c] := by
  rw [decomposable, code_set_bit, decide_eq_false_iff_not] at unlisted
  have absent : (decompositionList.map Prod.fst).contains c.toNat = false := by
    simpa [decompositionList] using unlisted
  have missing : decompositions[c.toNat]? = none :=
    Std.HashMap.getElem?_ofList_of_contains_eq_false absent
  rw [decompose, not_hangul c apart, Std.HashMap.get?_eq_getElem?, missing]
  rfl

theorem decompose_jamo (code : Nat) (low : 0x1100 ≤ code) (high : code < 0x11C3) :
    decompose (Char.ofNat code) = [Char.ofNat code] := by
  have number := char_of_nat code (by unfold Nat.isValidChar; omega)
  have unlisted : code ∉ decompositionTable.map Prod.fst := by
    intro listed
    obtain ⟨row, present, same⟩ := List.mem_map.mp listed
    have range := table_rows.sources row present
    omega
  apply decompose_unlisted
  · rw [decomposable, code_set_bit, number]
    exact decide_eq_false unlisted
  · omega

theorem syllable_parts (c : Char) (jamo : List Char) (found : Hangul.decompose? c = some jamo) :
    ∀ d ∈ jamo, ∃ code, d = Char.ofNat code ∧ 0x1100 ≤ code ∧ code < 0x11C3 := by
  unfold Hangul.decompose? at found
  dsimp only at found
  by_cases outside : c.toNat < Hangul.syllableBase ∨ Hangul.syllableBase + Hangul.syllableCount ≤ c.toNat
  · simp [outside] at found
  · rw [if_neg outside, Option.some.injEq] at found
    subst found
    simp only [Hangul.syllableBase, Hangul.syllableCount, Hangul.leadCount, Hangul.vowelCount,
      Hangul.tailCount] at outside
    intro d present
    rcases List.mem_cons.mp present with lead | others
    · refine ⟨_, lead, ?_, ?_⟩ <;>
        simp only [Hangul.leadBase, Hangul.syllableBase, Hangul.vowelCount, Hangul.tailCount] <;> omega
    · rcases List.mem_cons.mp others with vowel | tail
      · refine ⟨_, vowel, ?_, ?_⟩ <;>
          simp only [Hangul.vowelBase, Hangul.syllableBase, Hangul.vowelCount, Hangul.tailCount] <;> omega
      · by_cases whole : (c.toNat - Hangul.syllableBase) % Hangul.tailCount = 0
        · simp [whole] at tail
        · rw [if_neg whole, List.mem_singleton] at tail
          refine ⟨_, tail, ?_, ?_⟩ <;>
            simp only [Hangul.tailBase, Hangul.syllableBase, Hangul.tailCount] at whole ⊢ <;> omega

-- Decomposing is complete: no part decomposes further.
theorem parts_stand (c d : Char) (part : d ∈ decompose c) : decompose d = [d] := by
  unfold decompose at part
  cases syllable : Hangul.decompose? c with
  | some jamo =>
      rw [syllable] at part
      obtain ⟨code, rfl, low, high⟩ := syllable_parts c jamo syllable d part
      exact decompose_jamo code low high
  | none =>
      rw [syllable] at part
      cases found : decompositions[c.toNat]? with
      | none =>
          rw [Std.HashMap.get?_eq_getElem?, found] at part
          have itself : decompose c = [c] := by simp [decompose, syllable, found]
          rw [List.mem_singleton.mp part, itself]
      | some parts =>
          simp only [Std.HashMap.get?_eq_getElem?, found, Option.getD_some] at part
          obtain ⟨row, listed, same⟩ := List.mem_map.mp (lookup_listed decompositionList _ parts found)
          have isParts : row.2.map Char.ofNat = parts := (Prod.mk.inj same).2
          rw [← isParts] at part
          obtain ⟨code, present, rfl⟩ := List.mem_map.mp part
          obtain ⟨unlisted, range⟩ := table_rows.parts row listed code present
          have number := char_of_nat code (by unfold Nat.isValidChar; omega)
          exact decompose_unlisted _ (number.symm ▸ unlisted) (by omega)

theorem base_parts (c : Char) (base : c.toNat ∈ compositeTable.map (·.2.1))
    (apart : c.toNat < 0xAC00 ∨ 0xD7A4 ≤ c.toNat) : decompose c = (baseParts c.toNat).map Char.ofNat := by
  unfold baseParts
  by_cases listed : decomposable.testBit c.toNat = true
  · rw [if_pos listed]
    rw [decomposable, code_set_bit, decide_eq_true_eq] at listed
    obtain ⟨row, present, same⟩ := List.mem_map.mp listed
    have among : row ∈ baseRows := by
      refine List.mem_filter.mpr ⟨present, ?_⟩
      rw [code_set_bit, same]
      exact decide_eq_true base
    cases found : baseRows.lookup c.toNat with
    | none =>
        have missing := List.lookup_eq_none_iff.mp found row among
        simp [same] at missing
    | some parts =>
        obtain ⟨front, back, whole, -⟩ := List.lookup_eq_some_iff.mp found
        have inRows : (c.toNat, parts) ∈ baseRows := by simp [whole]
        exact decompose_listed c parts (List.mem_filter.mp inRows).1
  · have unlisted := Bool.not_eq_true _ ▸ listed
    simp [unlisted, decompose_unlisted c unlisted apart]

theorem syllable_decompose (c : Char) (lead vowel tail : Nat) (leads : lead < Hangul.leadCount)
    (vowels : vowel < Hangul.vowelCount) (tails : tail < Hangul.tailCount)
    (code : c.toNat = Hangul.syllableBase + (lead * Hangul.vowelCount + vowel) * Hangul.tailCount + tail) :
    decompose c = Char.ofNat (Hangul.leadBase + lead) :: Char.ofNat (Hangul.vowelBase + vowel) ::
      if tail = 0 then [] else [Char.ofNat (Hangul.tailBase + tail)] := by
  have inside : ¬ (c.toNat < Hangul.syllableBase ∨ Hangul.syllableBase + Hangul.syllableCount ≤ c.toNat) := by
    simp only [Hangul.syllableBase, Hangul.syllableCount, Hangul.leadCount, Hangul.vowelCount,
      Hangul.tailCount] at leads vowels tails code ⊢
    omega
  have index : c.toNat - Hangul.syllableBase = (lead * Hangul.vowelCount + vowel) * Hangul.tailCount + tail := by
    omega
  simp only [Hangul.leadCount, Hangul.vowelCount, Hangul.tailCount] at leads vowels tails
  have leadPart : ((lead * 21 + vowel) * 28 + tail) / (21 * 28) = lead := by omega
  have vowelPart : ((lead * 21 + vowel) * 28 + tail) % (21 * 28) / 28 = vowel := by omega
  have tailPart : ((lead * 21 + vowel) * 28 + tail) % 28 = tail := by omega
  rw [decompose, Hangul.decompose?, if_neg inside, index]
  dsimp only [Hangul.vowelCount, Hangul.tailCount]
  rw [leadPart, vowelPart, tailPart]

theorem syllable_splits (first second syllable : Char)
    (composed : Hangul.compose? first second = some syllable) :
    decompose syllable = decompose first ++ [second] ∧ decompose second = [second] := by
  unfold Hangul.compose? at composed
  dsimp only at composed
  by_cases pair : Hangul.leadBase ≤ first.toNat ∧ first.toNat < Hangul.leadBase + Hangul.leadCount ∧
      Hangul.vowelBase ≤ second.toNat ∧ second.toNat < Hangul.vowelBase + Hangul.vowelCount
  · rw [if_pos pair, Option.some.injEq] at composed
    obtain ⟨lead, isLead⟩ := Nat.exists_eq_add_of_le pair.1
    obtain ⟨vowel, isVowel⟩ := Nat.exists_eq_add_of_le pair.2.2.1
    rw [isLead, isVowel, Nat.add_sub_cancel_left, Nat.add_sub_cancel_left] at composed
    rw [isLead, isVowel] at pair
    simp only [Hangul.leadBase, Hangul.leadCount, Hangul.vowelBase, Hangul.vowelCount] at pair isLead isVowel
    have leadStands := decompose_jamo first.toNat (by omega) (by omega)
    have vowelStands := decompose_jamo second.toNat (by omega) (by omega)
    rw [Char.ofNat_toNat] at leadStands vowelStands
    have code : syllable.toNat =
        Hangul.syllableBase + (lead * Hangul.vowelCount + vowel) * Hangul.tailCount + 0 := by
      rw [← composed]
      apply char_of_nat
      simp only [Hangul.syllableBase, Hangul.vowelCount, Hangul.tailCount, Nat.isValidChar]
      omega
    have parts := syllable_decompose syllable lead vowel 0 (by simp only [Hangul.leadCount]; omega)
      (by simp only [Hangul.vowelCount]; omega) (by decide) code
    refine ⟨?_, vowelStands⟩
    rw [parts, leadStands, Hangul.leadBase, Hangul.vowelBase, ← isLead, ← isVowel, Char.ofNat_toNat,
      Char.ofNat_toNat]
    rfl
  · rw [if_neg pair] at composed
    obtain ⟨follows, same⟩ := Option.ite_none_right_eq_some.mp composed
    obtain ⟨index, isIndex⟩ := Nat.exists_eq_add_of_le follows.1
    obtain ⟨tail, isTail⟩ := Nat.exists_eq_add_of_le (Nat.le_of_lt follows.2.2.2.1)
    rw [isTail, Nat.add_sub_cancel_left, Option.some.injEq] at same
    rw [isIndex, isTail, Nat.add_sub_cancel_left] at follows
    simp only [Hangul.syllableBase, Hangul.syllableCount, Hangul.leadCount, Hangul.vowelCount,
      Hangul.tailCount, Hangul.tailBase] at follows isIndex isTail
    obtain ⟨lead, isLead⟩ : ∃ lead, lead = index / 588 := ⟨_, rfl⟩
    obtain ⟨vowel, isVowel⟩ : ∃ vowel, vowel = index % 588 / 28 := ⟨_, rfl⟩
    have leads : lead < Hangul.leadCount := by simp only [Hangul.leadCount]; omega
    have vowels : vowel < Hangul.vowelCount := by simp only [Hangul.vowelCount]; omega
    have firstCode : first.toNat =
        Hangul.syllableBase + (lead * Hangul.vowelCount + vowel) * Hangul.tailCount + 0 := by
      simp only [Hangul.syllableBase, Hangul.vowelCount, Hangul.tailCount]
      omega
    have code : syllable.toNat =
        Hangul.syllableBase + (lead * Hangul.vowelCount + vowel) * Hangul.tailCount + tail := by
      rw [← same, char_of_nat _ (by unfold Nat.isValidChar; omega), firstCode, Nat.add_zero]
    have firstParts := syllable_decompose first lead vowel 0 leads vowels (by decide) firstCode
    have parts := syllable_decompose syllable lead vowel tail leads vowels
      (by simp only [Hangul.tailCount]; omega) code
    have tailStands := decompose_jamo second.toNat (by omega) (by omega)
    rw [Char.ofNat_toNat] at tailStands
    refine ⟨?_, tailStands⟩
    rw [parts, firstParts, if_neg (by omega), Hangul.tailBase, ← isTail, Char.ofNat_toNat]
    rfl

theorem composite_splits (first second composite : Char)
    (composed : compose? first second = some composite) :
    decompose composite = decompose first ++ [second] ∧ decompose second = [second] := by
  unfold compose? at composed
  cases syllable : Hangul.compose? first second with
  | some found =>
      rw [syllable] at composed
      cases composed
      exact syllable_splits first second composite syllable
  | none =>
      rw [syllable] at composed
      rw [Std.HashMap.get?_eq_getElem?] at composed
      obtain ⟨⟨code, a, b⟩, listed, same⟩ :=
        List.mem_map.mp (lookup_listed compositeList _ composite composed)
      obtain ⟨pair, rfl⟩ := Prod.mk.inj same
      obtain ⟨isFirst, isSecond⟩ := Prod.mk.inj pair
      obtain ⟨unlisted, firstApart, secondApart⟩ := table_rows.pairs _ listed
      dsimp only at isFirst isSecond unlisted firstApart secondApart
      have expanded : (code, baseParts a ++ [b]) ∈ decompositionTable :=
        table_rows.composites.subset (List.mem_map_of_mem listed)
      have parts := decompose_listed (Char.ofNat code) (baseParts a ++ [b])
        (by rw [source_code _ expanded]; exact expanded)
      have firstParts := base_parts first
        (isFirst ▸ List.mem_map_of_mem (f := fun row : Nat × Nat × Nat => row.2.1) listed) (by omega)
      have secondStands := decompose_unlisted second (isSecond ▸ unlisted) (by omega)
      refine ⟨?_, secondStands⟩
      rw [parts, firstParts, List.map_append, ← isFirst]
      simp only [List.map_cons, List.map_nil, isSecond, Char.ofNat_toNat]

end PlanChain.Text
