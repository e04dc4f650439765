import PlanChain.Proofs.Timestamp.Reading
import PlanChain.Run.Record

set_option autoImplicit false

namespace PlanChain

namespace Text

theorem digits_above (numeral : List Char) (digits : List Nat) (total : Nat)
    (read : numeral.mapM decimalDigit? = some digits) :
    total * 10 ^ numeral.length ≤ digits.foldl (fun total digit => total * 10 + digit) total := by
  induction numeral generalizing digits total with
  | nil =>
      cases read
      simp
  | cons c rest ih =>
      rw [List.mapM_cons] at read
      obtain ⟨digit, -, more⟩ := Option.bind_eq_some_iff.mp read
      obtain ⟨others, isRest, made⟩ := Option.bind_eq_some_iff.mp more
      cases made
      have above := ih others (total * 10 + digit) isRest
      have grown : total * 10 * 10 ^ rest.length ≤ (total * 10 + digit) * 10 ^ rest.length :=
        Nat.mul_le_mul_right _ (Nat.le_add_right _ _)
      rw [List.foldl_cons, List.length_cons, Nat.pow_succ', ← Nat.mul_assoc]
      exact Nat.le_trans grown above

-- The first digit in which two numerals of one length differ decides, of the text and of the number.
theorem numerals_in_order (a b : List Char) (x y : List Nat) (total : Nat)
    (readA : a.mapM decimalDigit? = some x) (readB : b.mapM decimalDigit? = some y) (sameLength : a.length = b.length)
    (less : x.foldl (fun total digit => total * 10 + digit) total <
      y.foldl (fun total digit => total * 10 + digit) total) : a < b := by
  induction a generalizing b x y total with
  | nil =>
      cases List.length_eq_zero_iff.mp sameLength.symm
      cases readA
      cases readB
      exact absurd less (Nat.lt_irrefl _)
  | cons c rest ih =>
      cases b with
      | nil => cases sameLength
      | cons d others =>
          have sameRest : rest.length = others.length := Nat.succ.inj sameLength
          rw [List.mapM_cons] at readA readB
          obtain ⟨p, isP, moreA⟩ := Option.bind_eq_some_iff.mp readA
          obtain ⟨restX, readRest, madeA⟩ := Option.bind_eq_some_iff.mp moreA
          obtain ⟨q, isQ, moreB⟩ := Option.bind_eq_some_iff.mp readB
          obtain ⟨restY, readOthers, madeB⟩ := Option.bind_eq_some_iff.mp moreB
          cases madeA
          cases madeB
          rw [List.foldl_cons, List.foldl_cons] at less
          have codeP := digit_code c p isP
          have codeQ := digit_code d q isQ
          rw [List.cons_lt_cons_iff]
          rcases Nat.lt_trichotomy p q with below | same | above
          · exact Or.inl (UInt32.lt_iff_toNat_lt.mpr (show c.toNat < d.toNat by omega))
          · refine Or.inr ⟨Char.toNat_inj.mp (by omega), ?_⟩
            rw [same] at less
            exact ih others restX restY (total * 10 + q) readRest readOthers sameRest less
          · have least := digits_above rest restX (total * 10 + p) readRest
            have most := digits_below others restY (total * 10 + q) readOthers
            have apart : (total * 10 + q + 1) * 10 ^ others.length ≤ (total * 10 + p) * 10 ^ rest.length := by
              rw [sameRest]
              exact Nat.mul_le_mul_right _ (by omega)
            omega

theorem padded_in_order (width m n : Nat) (less : m < n)
    (sameLength : (padded width (decimal m)).length = (padded width (decimal n)).length) :
    padded width (decimal m) < padded width (decimal n) := by
  have digits (n : Nat) : ∃ digits, (padded width (decimal n)).mapM decimalDigit? = some digits ∧
      ofDigits 10 digits = n := by
    obtain ⟨digits, read, value⟩ := decimal_digits n
    obtain ⟨all, allRead, same⟩ := zeros_digits (width - (decimal n).length) (decimal n) digits read
    exact ⟨all, allRead, same.trans value⟩
  obtain ⟨x, readM, isM⟩ := digits m
  obtain ⟨y, readN, isN⟩ := digits n
  refine numerals_in_order _ _ x y 0 readM readN sameLength ?_
  change ofDigits 10 x < ofDigits 10 y
  rwa [isM, isN]

theorem decimal_fits (n : Nat) : n < 10 ^ (decimal n).length := by
  have read := padded_read 0 n
  rw [padded, Nat.zero_sub, List.replicate_zero, List.nil_append] at read
  exact decimal_below _ n read

theorem decimal_length_le (k n : Nat) (positive : 0 < k) (small : n < 10 ^ k) : (decimal n).length ≤ k := by
  obtain ⟨width, rfl⟩ := Nat.exists_eq_succ_of_ne_zero (Nat.ne_of_gt positive)
  exact decimal_length width n small

theorem padded_same_length (width m n : Nat) (less : m < n)
    (uncrossed : ∀ k, width ≤ k → m < 10 ^ k → ¬ 10 ^ k ≤ n) :
    (padded width (decimal m)).length = (padded width (decimal n)).length := by
  have someDigit (n : Nat) : 0 < (decimal n).length := List.length_pos_iff.mpr (decimal_nonempty n)
  have noShorter := decimal_length_le _ m (someDigit n) (Nat.lt_trans less (decimal_fits n))
  simp only [padded, List.length_append, List.length_replicate]
  by_cases longer : (decimal m).length < (decimal n).length
  · -- The shortest number of as many digits as the greater one lies between the two.
    have nonempty := someDigit m
    have above : m < 10 ^ ((decimal n).length - 1) :=
      Nat.lt_of_lt_of_le (decimal_fits m) (Nat.pow_le_pow_right (by decide) (by omega))
    have narrow : ¬ width ≤ (decimal n).length - 1 := by
      intro wide
      have short := decimal_length_le _ n (by omega) (Nat.not_le.mp (uncrossed _ wide above))
      omega
    omega
  · omega

theorem decimal_power (k : Nat) : decimal (10 ^ k) = '1' :: List.replicate k '0' := by
  induction k with
  | zero =>
      rw [decimal]
      rfl
  | succ k ih =>
      have positive : 0 < 10 ^ k := Nat.pow_pos (by decide)
      have tenfold : 10 ^ (k + 1) = 10 ^ k * 10 := Nat.pow_succ 10 k
      rw [decimal, if_neg (by omega), tenfold, Nat.mul_div_cancel _ (by decide), Nat.mul_mod_left, ih,
        List.replicate_succ']
      rfl

theorem decimal_nines (k : Nat) : decimal (10 ^ (k + 1) - 1) = List.replicate (k + 1) '9' := by
  induction k with
  | zero =>
      rw [decimal]
      rfl
  | succ k ih =>
      have positive : 0 < 10 ^ k := Nat.pow_pos (by decide)
      have hundredfold : 10 ^ (k + 2) = 10 ^ k * 100 := Nat.pow_add 10 k 2
      have tenfold : 10 ^ (k + 1) = 10 ^ k * 10 := Nat.pow_succ 10 k
      rw [decimal, if_neg (by omega), show (10 ^ (k + 2) - 1) / 10 = 10 ^ (k + 1) - 1 by omega, ih,
        show (10 ^ (k + 2) - 1) % 10 = 9 by omega]
      exact List.replicate_succ'.symm

end Text

theorem run_id_lt (m n : UInt64) :
    runId m < runId n ↔ Text.padded 6 (Text.decimal m.toNat) < Text.padded 6 (Text.decimal n.toNat) := by
  rw [runId, runId, String.lt_iff, String.toList_ofList, String.toList_ofList]
  simp only [List.cons_append, List.nil_append, List.cons_lt_cons_self]

-- Ids follow their numbers as long as those do not get past a power of ten of more than six digits.
theorem run_ids_in_order (m n : Nat) (less : m < n) (room : n < UInt64.size)
    (uncrossed : ∀ k, 6 ≤ k → m < 10 ^ k → ¬ 10 ^ k ≤ n) : runId (.ofNat m) < runId (.ofNat n) := by
  rw [run_id_lt, UInt64.toNat_ofNat_of_lt' room, UInt64.toNat_ofNat_of_lt' (Nat.lt_trans less room)]
  exact Text.padded_in_order 6 m n less (Text.padded_same_length 6 m n less uncrossed)

-- There they jump back: a one and zeros come before nines.
theorem run_id_jumps_back (k : Nat) (long : 6 ≤ k) (room : 10 ^ k < UInt64.size) :
    runId (.ofNat (10 ^ k)) < runId (.ofNat (10 ^ k - 1)) := by
  obtain ⟨k, rfl⟩ := Nat.exists_eq_add_of_le' long
  have unpadded (numeral : List Char) (wide : 6 ≤ numeral.length) : Text.padded 6 numeral = numeral := by
    rw [Text.padded, Nat.sub_eq_zero_of_le wide, List.replicate_zero, List.nil_append]
  have before : 10 ^ (k + 6) - 1 < UInt64.size := Nat.lt_of_le_of_lt (Nat.sub_le _ 1) room
  rw [run_id_lt, UInt64.toNat_ofNat_of_lt' room, UInt64.toNat_ofNat_of_lt' before, Text.decimal_power,
    Text.decimal_nines, unpadded _ (by simp), unpadded _ (by simp)]
  exact List.cons_lt_cons_iff.mpr (Or.inl (by decide))

end PlanChain
