import PlanChain.Proofs.Text.Digits
import PlanChain.Proofs.Timestamp.Calendar

set_option autoImplicit false

namespace PlanChain

namespace Text

theorem digit_code (c : Char) (digit : Nat) (read : decimalDigit? c = some digit) :
    48 ≤ c.toNat ∧ c.toNat ≤ 57 ∧ digit = c.toNat - 48 := by
  rw [decimalDigit?] at read
  by_cases inside : '0' ≤ c ∧ c ≤ '9'
  · rw [if_pos inside] at read
    cases read
    exact ⟨UInt32.le_iff_toNat_le.mp inside.1, UInt32.le_iff_toNat_le.mp inside.2, rfl⟩
  · rw [if_neg inside] at read
    cases read

theorem digit_not_blank (c : Char) (digit : isDecimalDigit c = true) : isBlank c = false := by
  obtain ⟨_, read⟩ := Option.isSome_iff_exists.mp digit
  have code := digit_code c _ read
  simp [isBlank]
  omega

theorem padded_digits (width n : Nat) : ∀ c ∈ padded width (decimal n), isDecimalDigit c = true := by
  have zero : isDecimalDigit '0' = true := by decide
  refine List.forall_mem_append.mpr ⟨fun c zeros => ?_, decimal_all_digits n⟩
  rw [List.eq_of_mem_replicate zeros, zero]

theorem padded_length (width n : Nat) (small : n < Nat.pow 10 (width + 1)) :
    (padded (width + 1) (decimal n)).length = width + 1 := by
  have short := decimal_length width n small
  rw [padded, List.length_append, List.length_replicate]
  omega

theorem padded_starts (width n : Nat) :
    ∃ c rest, padded width (decimal n) = c :: rest ∧ isDecimalDigit c = true := by
  cases shape : padded width (decimal n) with
  | nil => exact absurd (List.append_eq_nil_iff.mp shape).2 (decimal_nonempty n)
  | cons c rest => exact ⟨c, rest, rfl, padded_digits width n c (by simp [shape])⟩

theorem padded_front (width n : Nat) (rest : List Char) (apart : ∀ c ∈ rest.head?, isDecimalDigit c = false) :
    (padded width (decimal n) ++ rest).takeWhile isDecimalDigit = padded width (decimal n) := by
  rw [List.takeWhile_append_of_pos (padded_digits width n)]
  cases rest with
  | nil => exact List.append_nil _
  | cons c rest =>
      have noDigit := apart c rfl
      rw [List.takeWhile_cons_of_neg (by simp [noDigit]), List.append_nil]

theorem trimStart_visible (c : Char) (rest : List Char) (visible : isBlank c = false) :
    trimStart (c :: rest) = c :: rest := by
  rw [trimStart, List.dropWhile_cons_of_neg (by simp [visible])]

theorem trimStart_padded (width n : Nat) (rest : List Char) :
    trimStart (padded width (decimal n) ++ rest) = padded width (decimal n) ++ rest := by
  obtain ⟨c, tail, shape, digit⟩ := padded_starts width n
  rw [shape, List.cons_append, trimStart_visible c _ (digit_not_blank c digit)]

theorem digits_below (numeral : List Char) (digits : List Nat) (total : Nat)
    (read : numeral.mapM decimalDigit? = some digits) :
    digits.foldl (fun total digit => total * 10 + digit) total < (total + 1) * 10 ^ numeral.length := by
  induction numeral generalizing digits total with
  | nil =>
      cases read
      simp
  | cons c rest ih =>
      rw [List.mapM_cons] at read
      obtain ⟨digit, isDigit, more⟩ := Option.bind_eq_some_iff.mp read
      obtain ⟨others, isRest, made⟩ := Option.bind_eq_some_iff.mp more
      cases made
      have code := digit_code c digit isDigit
      have below := ih others (total * 10 + digit) isRest
      have grown : (total * 10 + digit + 1) * 10 ^ rest.length ≤ (total + 1) * 10 * 10 ^ rest.length :=
        Nat.mul_le_mul_right _ (by omega)
      rw [List.foldl_cons, List.length_cons, Nat.pow_succ', ← Nat.mul_assoc]
      exact Nat.lt_of_lt_of_le below grown

theorem decimal_below (numeral : List Char) (n : Nat) (read : decimal? numeral = some n) : n < 10 ^ numeral.length := by
  rw [decimal?] at read
  by_cases empty : numeral.isEmpty = true
  · rw [if_pos empty] at read
    cases read
  · rw [if_neg empty] at read
    obtain ⟨digits, isDigits, rfl⟩ := Option.map_eq_some_iff.mp read
    have below := digits_below numeral digits 0 isDigits
    rwa [Nat.zero_add, Nat.one_mul] at below

end Text

namespace Timestamp

open Text

theorem numeral_read (width n : Nat) (rest : List Char) (small : n < Nat.pow 10 (width + 1)) :
    numeralUpTo (width + 1) (padded (width + 1) (decimal n) ++ rest) = some (n, rest) := by
  have front : (padded (width + 1) (decimal n) ++ rest).take (width + 1) = padded (width + 1) (decimal n) :=
    List.take_left' (padded_length width n small)
  have digits := padded_front (width + 1) n [] (by simp)
  rw [List.append_nil] at digits
  simp only [numeralUpTo, front, digits, padded_read, Option.map_some, List.drop_left]

theorem two_digits_read (n : Nat) (rest : List Char) (small : n < 100) :
    field 2 (twoDigits n ++ rest) = some (n, rest) := by
  rw [field, twoDigits, trimStart_padded]
  exact numeral_read 1 n rest small

theorem mark_read (c : Char) (rest : List Char) (visible : isBlank c = false) : mark? c (c :: rest) = some rest := by
  rw [mark?, trimStart_visible c rest visible]
  exact if_pos rfl

-- A year that has its sign takes all digits up to the mark behind it.
theorem long_numeral_read (width n : Nat) (rest : List Char) (apart : ∀ c ∈ rest.head?, isDecimalDigit c = false) :
    numeralUpTo (padded width (decimal n) ++ rest).length (padded width (decimal n) ++ rest) = some (n, rest) := by
  simp only [numeralUpTo, List.take_length, padded_front width n rest apart, padded_read, Option.map_some,
    List.drop_left]

theorem unsigned_year (c : Char) (rest : List Char) (digit : isDecimalDigit c = true) :
    yearField (c :: rest) = (numeralUpTo 4 (c :: rest)).map fun found => ((found.1 : Int), found.2) := by
  rw [yearField, trimStart_visible c rest (digit_not_blank c digit)]
  split
  · rename_i same
    rw [(List.cons.inj same).1] at digit
    cases digit
  · rename_i same
    rw [(List.cons.inj same).1] at digit
    cases digit
  · rfl

theorem year_read (year : Int) (rest : List Char) :
    yearField (yearChars year ++ '-' :: rest) = some (year, '-' :: rest) := by
  have apart : ∀ c ∈ ('-' :: rest).head?, isDecimalDigit c = false := by
    rintro c ⟨⟩
    decide
  rw [yearChars]
  by_cases plain : 0 ≤ year ∧ year ≤ 9999
  · have read := numeral_read 3 year.toNat ('-' :: rest) (by change _ < 10000; omega)
    obtain ⟨c, tail, shape, digit⟩ := padded_starts 4 year.toNat
    rw [shape, List.cons_append] at read
    rw [if_pos plain, shape, List.cons_append, unsigned_year c _ digit, read, Option.map_some,
      Int.toNat_of_nonneg plain.1]
  · have read := long_numeral_read 4 year.natAbs ('-' :: rest) apart
    rw [if_neg plain]
    by_cases negative : year < 0
    · rw [if_pos negative, List.cons_append, yearField, trimStart_visible '-' _ (by decide)]
      simp only [read, Option.map_some]
      rw [Int.ofNat_natAbs_of_nonpos (Int.le_of_lt negative), Int.neg_neg]
    · rw [if_neg negative, List.cons_append, yearField, trimStart_visible '+' _ (by decide)]
      simp only [read, Option.map_some]
      rw [Int.natAbs_of_nonneg (Int.not_lt.mp negative)]

theorem fraction_read (width n : Nat) (small : n < Nat.pow 10 (width + 1)) (few : width + 1 ≤ 9) :
    fraction ('.' :: (padded (width + 1) (decimal n) ++ ['Z'])) =
      some (n * Nat.pow 10 (9 - (width + 1)), ['Z']) := by
  have length := padded_length width n small
  have digits := padded_front (width + 1) n ['Z'] (by simp [isDecimalDigit, decimalDigit?])
  have counted : (padded (width + 1) (decimal n)).take 9 = padded (width + 1) (decimal n) :=
    List.take_of_length_le (by omega)
  simp only [fraction, digits, counted, padded_read, Option.map_some, List.drop_left]
  rw [length]

theorem fraction_chars_read (nanoseconds : Nat) (small : nanoseconds < 1000000000) :
    fraction (fractionChars nanoseconds ++ ['Z']) = some (nanoseconds, ['Z']) := by
  rw [fractionChars]
  by_cases none : nanoseconds = 0
  · rw [if_pos none, none]
    rfl
  · rw [if_neg none]
    by_cases thousandths : nanoseconds % 1000000 = 0
    · have read := fraction_read 2 (nanoseconds / 1000000) (by change _ < 1000; omega) (by decide)
      rw [if_pos thousandths, List.cons_append, read]
      exact congrArg (fun n => some (n, ['Z'])) (Nat.div_mul_cancel (Nat.dvd_of_mod_eq_zero thousandths))
    · rw [if_neg thousandths]
      by_cases millionths : nanoseconds % 1000 = 0
      · have read := fraction_read 5 (nanoseconds / 1000) (by change _ < 1000000; omega) (by decide)
        rw [if_pos millionths, List.cons_append, read]
        exact congrArg (fun n => some (n, ['Z'])) (Nat.div_mul_cancel (Nat.dvd_of_mod_eq_zero millionths))
      · have read := fraction_read 8 nanoseconds small (by decide)
        rw [if_neg millionths, List.cons_append, read]
        exact congrArg (fun n => some (n, ['Z'])) (Nat.mul_one nanoseconds)

-- The moments there are: of a year that is allowed, and with a leap second only behind the second of 59.
structure Proper (moment : Timestamp) : Prop where
  year : yearAllowed (Date.ofDays (moment.seconds / 86400)).year = true
  nanoseconds : moment.nanoseconds < 1000000000 ∨ moment.seconds % 60 = 59 ∧ moment.nanoseconds < 2000000000

theorem local_moment (moment : Timestamp) (proper : moment.Proper) (time : Nat)
    (isTime : time = (moment.seconds % 86400).toNat) :
    ofLocal? (Date.ofDays (moment.seconds / 86400)) (time / 3600) (time / 60 % 60)
        (time % 60 + moment.nanoseconds / 1000000000) (moment.nanoseconds % 1000000000) 0 = some moment := by
  have range := proper.nanoseconds
  have leap : (time % 60 + moment.nanoseconds / 1000000000) / 60 = moment.nanoseconds / 1000000000 := by omega
  have inTime : (!(Date.ofDays (moment.seconds / 86400)).isValid || 24 ≤ time / 3600 || 60 ≤ time / 60 % 60
      || 61 ≤ time % 60 + moment.nanoseconds / 1000000000 || 86400 ≤ (0 : Int).natAbs) = false := by
    simp [of_days_valid _ proper.year]
    omega
  have seconds : moment.seconds / 86400 * 86400 + ((time / 3600 * 3600 + time / 60 % 60 * 60 +
      (time % 60 + moment.nanoseconds / 1000000000 - moment.nanoseconds / 1000000000) : Nat) : Int) - 0 =
        moment.seconds := by omega
  have nanoseconds : moment.nanoseconds % 1000000000 + moment.nanoseconds / 1000000000 * 1000000000 =
      moment.nanoseconds := by omega
  simp only [ofLocal?, inTime, leap, to_days_of_days, seconds, proper.year, nanoseconds, if_true, Bool.false_eq_true,
    if_false]

theorem days_in_month_le (year : Int) (month : Nat) : daysInMonth year month ≤ 31 := by
  rw [daysInMonth]
  split
  · split <;> decide
  · split <;> decide

theorem read_then {α β : Type} {found : Option α} {value : α} {next : α → Option β} (read : found = some value) :
    found.bind next = next value := by
  rw [read, Option.bind_some]

def clock? (date : Date) (input : List Char) : Option Timestamp := do
  let (hour, rest) ← field 2 input
  let (minute, rest) ← field 2 (← mark? ':' rest)
  let (second, rest) ← field 2 (← mark? ':' rest)
  let (nanoseconds, rest) ← fraction rest
  let (offset, rest) ← offset (trimStart rest)
  if (trimStart rest).isEmpty then ofLocal? date hour minute second nanoseconds offset
  else none

theorem clock_read (date : Date) (hour minute second nanoseconds : Nat)
    (small : hour < 100 ∧ minute < 100 ∧ second < 100) (part : nanoseconds < 1000000000) :
    clock? date (twoDigits hour ++ ':' :: (twoDigits minute ++ ':' :: (twoDigits second ++
      (fractionChars nanoseconds ++ ['Z'])))) = ofLocal? date hour minute second nanoseconds 0 := by
  rw [clock?]
  refine (read_then (two_digits_read _ _ small.1)).trans ?_
  refine (read_then (mark_read ':' _ (by decide))).trans ?_
  refine (read_then (two_digits_read _ _ small.2.1)).trans ?_
  refine (read_then (mark_read ':' _ (by decide))).trans ?_
  refine (read_then (two_digits_read _ _ small.2.2)).trans ?_
  refine (read_then (fraction_chars_read nanoseconds part)).trans ?_
  rfl

theorem date_read (date : Date) (month : date.month < 100) (day : date.day < 100) (rest : List Char) :
    ofText? (String.ofList (yearChars date.year ++ '-' :: (twoDigits date.month ++ '-' :: (twoDigits date.day ++
      'T' :: rest)))) = clock? date rest := by
  rw [ofText?, String.toList_ofList]
  refine (read_then (year_read _ _)).trans ?_
  refine (read_then (mark_read '-' _ (by decide))).trans ?_
  refine (read_then (two_digits_read _ _ month)).trans ?_
  refine (read_then (mark_read '-' _ (by decide))).trans ?_
  refine (read_then (two_digits_read _ _ day)).trans ?_
  rfl

theorem text_read (moment : Timestamp) (proper : moment.Proper) : ofText? moment.text = some moment := by
  have range := proper.nanoseconds
  have valid := of_days_valid _ proper.year
  have made := local_moment moment proper _ rfl
  simp only [Date.isValid, Bool.and_eq_true, decide_eq_true_eq] at valid
  have longest := days_in_month_le (Date.ofDays (moment.seconds / 86400)).year
    (Date.ofDays (moment.seconds / 86400)).month
  rw [text]
  simp only [List.append_assoc, List.cons_append]
  rw [date_read _ (by omega) (by omega), clock_read _ _ _ _ _ (by omega) (by omega)]
  exact made

theorem fraction_below (input rest : List Char) (n : Nat) (read : fraction input = some (n, rest)) :
    n < 1000000000 := by
  rw [fraction.eq_def] at read
  split at read
  · rename_i digits
    obtain ⟨value, isValue, made⟩ := Option.map_eq_some_iff.mp read
    cases made
    have few : ((digits.takeWhile isDecimalDigit).take 9).length ≤ 9 := List.length_take_le 9 _
    generalize (digits.takeWhile isDecimalDigit).take 9 = counted at isValue few
    have below := decimal_below counted value isValue
    have scaled : value * Nat.pow 10 (9 - counted.length) < 10 ^ counted.length * Nat.pow 10 (9 - counted.length) :=
      Nat.mul_lt_mul_of_pos_right below (Nat.pow_pos (by decide))
    have whole : 10 ^ counted.length * Nat.pow 10 (9 - counted.length) = 10 ^ 9 := by
      change _ * 10 ^ _ = _
      rw [← Nat.pow_add, Nat.add_sub_of_le few]
    omega
  · cases read
    decide

theorem offset_in_minutes (input rest : List Char) (shift : Int) (read : offset input = some (shift, rest)) :
    shift % 60 = 0 := by
  rw [offset.eq_def] at read
  have signed (sign : Int) (front : List Char)
      (found : ((offsetPart 100 front).bind fun hours =>
        (offsetPart 60 (hours.2.dropWhile fun c => c = ':' || isBlank c)).bind fun minutes =>
          some (sign * ((hours.1 : Int) * 3600 + minutes.1 * 60), minutes.2)) = some (shift, rest)) :
      shift % 60 = 0 := by
    obtain ⟨hours, -, later⟩ := Option.bind_eq_some_iff.mp found
    obtain ⟨minutes, -, made⟩ := Option.bind_eq_some_iff.mp later
    cases made
    have whole : (hours.1 : Int) * 3600 + minutes.1 * 60 = 60 * (hours.1 * 60 + minutes.1) := by omega
    rw [whole, Int.mul_left_comm, Int.mul_emod_right]
  dsimp only at read
  split at read
  · cases read; rfl
  · cases read; rfl
  · exact signed _ _ read
  · exact signed _ _ read
  · exact signed _ _ read
  · split at read
    · cases read; rfl
    · cases read
  · cases read

theorem local_proper (date : Date) (hour minute second nanoseconds : Nat) (shift : Int) (moment : Timestamp)
    (below : nanoseconds < 1000000000) (inMinutes : shift % 60 = 0)
    (made : ofLocal? date hour minute second nanoseconds shift = some moment) : moment.Proper := by
  rw [ofLocal?] at made
  split at made
  · cases made
  · rename_i inside
    dsimp only at made
    split at made
    · rename_i allowed
      cases made
      refine ⟨allowed, ?_⟩
      simp only [Bool.or_eq_true, decide_eq_true_eq, not_or] at inside
      have leap : second / 60 = 0 ∨ second = 60 := by omega
      dsimp only
      rcases leap with common | rfl <;> omega
    · cases made

theorem clock_proper (date : Date) (input : List Char) (moment : Timestamp)
    (read : clock? date input = some moment) : moment.Proper := by
  rw [clock?] at read
  obtain ⟨⟨hour, _⟩, -, read⟩ := Option.bind_eq_some_iff.mp read
  obtain ⟨_, -, read⟩ := Option.bind_eq_some_iff.mp read
  obtain ⟨⟨minute, _⟩, -, read⟩ := Option.bind_eq_some_iff.mp read
  obtain ⟨_, -, read⟩ := Option.bind_eq_some_iff.mp read
  obtain ⟨⟨second, _⟩, -, read⟩ := Option.bind_eq_some_iff.mp read
  obtain ⟨⟨nanoseconds, _⟩, isFraction, read⟩ := Option.bind_eq_some_iff.mp read
  obtain ⟨⟨shift, left⟩, isOffset, made⟩ := Option.bind_eq_some_iff.mp read
  dsimp only at made
  by_cases done : (trimStart left).isEmpty = true
  · rw [if_pos done] at made
    exact local_proper _ hour minute second nanoseconds shift moment (fraction_below _ _ _ isFraction)
      (offset_in_minutes _ _ _ isOffset) made
  · rw [if_neg done] at made
    cases made

theorem proper_of_read (written : String) (moment : Timestamp) (read : ofText? written = some moment) :
    moment.Proper := by
  rw [ofText?] at read
  obtain ⟨⟨year, _⟩, -, read⟩ := Option.bind_eq_some_iff.mp read
  obtain ⟨_, -, read⟩ := Option.bind_eq_some_iff.mp read
  obtain ⟨⟨month, _⟩, -, read⟩ := Option.bind_eq_some_iff.mp read
  obtain ⟨_, -, read⟩ := Option.bind_eq_some_iff.mp read
  obtain ⟨⟨day, _⟩, -, read⟩ := Option.bind_eq_some_iff.mp read
  dsimp only at read
  split at read
  · exact clock_proper ⟨year, month, day⟩ _ moment read
  · exact clock_proper ⟨year, month, day⟩ _ moment read
  · exact clock_proper ⟨year, month, day⟩ _ moment read
  · cases read

theorem proper_iff_read (moment : Timestamp) : moment.Proper ↔ ∃ written, ofText? written = some moment := by
  constructor
  · exact fun proper => ⟨moment.text, text_read moment proper⟩
  · rintro ⟨written, read⟩
    exact proper_of_read written moment read

end Timestamp

end PlanChain
