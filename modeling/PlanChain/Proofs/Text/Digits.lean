import PlanChain.Text.Digits

set_option autoImplicit false

namespace PlanChain.Text

theorem digit_of_char (digit : Nat) (small : digit < 10) : decimalDigit? (digitChar digit) = some digit := by
  have all : ∀ digit < 10, decimalDigit? (digitChar digit) = some digit := by decide
  exact all digit small

theorem of_digits_append (base : Nat) (digits : List Nat) (last : Nat) :
    ofDigits base (digits ++ [last]) = ofDigits base digits * base + last := by
  simp [ofDigits, List.foldl_append]

theorem decimal_digits (n : Nat) :
    ∃ digits, (decimal n).mapM decimalDigit? = some digits ∧ ofDigits 10 digits = n := by
  induction n using decimal.induct with
  | case1 n small =>
      have digit := digit_of_char n small
      exact ⟨[n], by simp [decimal, small, digit], by simp [ofDigits]⟩
  | case2 n large ih =>
      obtain ⟨digits, read, value⟩ := ih
      have digit := digit_of_char (n % 10) (Nat.mod_lt n (by decide))
      refine ⟨digits ++ [n % 10], ?_, ?_⟩
      · rw [decimal, if_neg large, List.mapM_append, read]
        simp [digit]
      · rw [of_digits_append, value]
        omega

theorem decimal_nonempty (n : Nat) : decimal n ≠ [] := by
  rw [decimal]
  by_cases small : n < 10 <;> simp [small]

theorem decimal_all_digits (n : Nat) : ∀ c ∈ decimal n, isDecimalDigit c = true := by
  induction n using decimal.induct with
  | case1 n small =>
      simp [decimal, small, isDecimalDigit, digit_of_char n small]
  | case2 n large ih =>
      have digit := digit_of_char (n % 10) (Nat.mod_lt n (by decide))
      rw [decimal, if_neg large]
      exact List.forall_mem_append.mpr ⟨ih, by simp [isDecimalDigit, digit]⟩

theorem decimal_length (width n : Nat) (small : n < Nat.pow 10 (width + 1)) : (decimal n).length ≤ width + 1 := by
  induction width generalizing n with
  | zero =>
      have digit : n < 10 := small
      rw [decimal, if_pos digit]
      exact Nat.le_refl 1
  | succ width ih =>
      rw [decimal]
      by_cases digit : n < 10
      · rw [if_pos digit]
        exact Nat.le_add_left 1 _
      · have rest : n / 10 < Nat.pow 10 (width + 1) := Nat.div_lt_of_lt_mul (by rw [Nat.mul_comm]; exact small)
        rw [if_neg digit, List.length_append]
        exact Nat.succ_le_succ (ih (n / 10) rest)

theorem zeros_digits (count : Nat) (rest : List Char) (digits : List Nat)
    (read : rest.mapM decimalDigit? = some digits) :
    ∃ padded, (List.replicate count '0' ++ rest).mapM decimalDigit? = some padded ∧
      ofDigits 10 padded = ofDigits 10 digits := by
  induction count with
  | zero => exact ⟨digits, read, rfl⟩
  | succ count ih =>
      obtain ⟨padded, paddedRead, value⟩ := ih
      have zero : decimalDigit? '0' = some 0 := by decide
      refine ⟨0 :: padded, ?_, ?_⟩
      · simp [List.replicate_succ, zero, paddedRead]
      · simpa [ofDigits] using value

@[simp] theorem padded_read (width n : Nat) : decimal? (padded width (decimal n)) = some n := by
  obtain ⟨digits, read, value⟩ := decimal_digits n
  obtain ⟨padded, paddedRead, same⟩ := zeros_digits (width - (decimal n).length) (decimal n) digits read
  have filled : (List.replicate (width - (decimal n).length) '0' ++ decimal n).isEmpty = false := by
    simp [decimal_nonempty]
  rw [Text.padded, decimal?, filled, paddedRead]
  simp [same, value]

theorem padded_injective (width a b : Nat) (same : padded width (decimal a) = padded width (decimal b)) :
    a = b := by
  have read := congrArg decimal? same
  rw [padded_read, padded_read] at read
  exact Option.some.inj read

theorem decimal_injective (a b : Nat) (same : decimal a = decimal b) : a = b :=
  padded_injective 0 a b (congrArg (padded 0) same)

end PlanChain.Text
