import PlanChain.Text.Blank
import PlanChain.Text.Reader

set_option autoImplicit false

namespace PlanChain

-- A moment: whole seconds since the start of 1970, and nanoseconds. Within a leap second the nanoseconds
-- go on from those of the second before it.
structure Timestamp where
  seconds : Int
  nanoseconds : Nat
deriving DecidableEq, Inhabited

namespace Timestamp

def atMost (a b : Timestamp) : Bool :=
  a.seconds < b.seconds || (a.seconds = b.seconds && a.nanoseconds ≤ b.nanoseconds)

structure Date where
  year : Int
  month : Nat
  day : Nat
deriving DecidableEq

def isLeapYear (year : Int) : Bool := year % 4 = 0 && (year % 100 ≠ 0 || year % 400 = 0)

def daysInMonth (year : Int) (month : Nat) : Nat :=
  if month = 2 then if isLeapYear year then 29 else 28
  else if month = 4 || month = 6 || month = 9 || month = 11 then 30
  else 31

def yearAllowed (year : Int) : Bool := -262143 ≤ year && year ≤ 262142

namespace Date

-- The days from the start of 1970 to a date. A year is counted from March, so that a leap day is its last.
def toDays (date : Date) : Int :=
  let year := if date.month ≤ 2 then date.year - 1 else date.year
  let era := year / 400
  let yearOfEra := year % 400
  let month : Int := (date.month + 9) % 12
  let dayOfYear := (153 * month + 2) / 5 + (date.day - 1)
  let dayOfEra := yearOfEra * 365 + yearOfEra / 4 - yearOfEra / 100 + dayOfYear
  era * 146097 + dayOfEra - 719468

def ofDays (days : Int) : Date :=
  let shifted := days + 719468
  let era := shifted / 146097
  let dayOfEra := shifted % 146097
  let yearOfEra := (dayOfEra - dayOfEra / 1460 + dayOfEra / 36524 - dayOfEra / 146096) / 365
  let dayOfYear := dayOfEra - (365 * yearOfEra + yearOfEra / 4 - yearOfEra / 100)
  let march := (5 * dayOfYear + 2) / 153
  let month := if march < 10 then march + 3 else march - 9
  let year := yearOfEra + era * 400 + if month ≤ 2 then 1 else 0
  ⟨year, month.toNat, (dayOfYear - (153 * march + 2) / 5 + 1).toNat⟩

def isValid (date : Date) : Bool :=
  yearAllowed date.year && 1 ≤ date.month && date.month ≤ 12 && 1 ≤ date.day
    && date.day ≤ daysInMonth date.year date.month

end Date

open Text

def twoDigits (n : Nat) : List Char := padded 2 (decimal n)

def yearChars (year : Int) : List Char :=
  if 0 ≤ year ∧ year ≤ 9999 then padded 4 (decimal year.toNat)
  else (if year < 0 then '-' else '+') :: padded 4 (decimal year.natAbs)

def fractionChars (nanoseconds : Nat) : List Char :=
  if nanoseconds = 0 then []
  else if nanoseconds % 1000000 = 0 then '.' :: padded 3 (decimal (nanoseconds / 1000000))
  else if nanoseconds % 1000 = 0 then '.' :: padded 6 (decimal (nanoseconds / 1000))
  else '.' :: padded 9 (decimal nanoseconds)

def text (moment : Timestamp) : String :=
  let date := Date.ofDays (moment.seconds / 86400)
  let second := (moment.seconds % 86400).toNat
  let leap := moment.nanoseconds / 1000000000
  String.ofList <|
    yearChars date.year ++ '-' :: twoDigits date.month ++ '-' :: twoDigits date.day
    ++ 'T' :: twoDigits (second / 3600) ++ ':' :: twoDigits (second / 60 % 60)
    ++ ':' :: twoDigits (second % 60 + leap) ++ fractionChars (moment.nanoseconds % 1000000000)
    ++ ['Z']

def numeralUpTo (width : Nat) : Reader Nat := fun input =>
  let digits := (input.take width).takeWhile isDecimalDigit
  (decimal? digits).map (·, input.drop digits.length)

def field (width : Nat) : Reader Nat := fun input => numeralUpTo width (trimStart input)

-- Reads a year: four digits at most, or any number of them after a sign.
def yearField : Reader Int := fun input =>
  let signed (rest : List Char) : Reader Nat := fun _ => numeralUpTo rest.length rest
  match trimStart input with
  | '-' :: rest => (signed rest rest).map fun (year, rest) => (-(year : Int), rest)
  | '+' :: rest => (signed rest rest).map fun (year, rest) => ((year : Int), rest)
  | rest => (numeralUpTo 4 rest).map fun (year, rest) => ((year : Int), rest)

def mark? (c : Char) (input : List Char) : Option (List Char) :=
  match trimStart input with
  | head :: rest => if head = c then some rest else none
  | [] => none

-- Reads the digits of a fraction as nanoseconds; those beyond the ninth do not count.
def fraction : Reader Nat := fun input =>
  match input with
  | '.' :: rest =>
    let digits := rest.takeWhile isDecimalDigit
    let counted := digits.take 9
    (decimal? counted).map fun value =>
      (value * Nat.pow 10 (9 - counted.length), rest.drop digits.length)
  | _ => some (0, input)

def offsetPart (limit : Nat) : Reader Nat := fun input =>
  (fixedDigits 2 input).filter fun found => found.1 < limit

-- Reads an offset from UTC in seconds. Hours and minutes may have colons and blanks between them.
def offset : Reader Int := fun input =>
  let signed (sign : Int) (rest : List Char) : Option (Int × List Char) := do
    let (hours, rest) ← offsetPart 100 rest
    let (minutes, rest) ← offsetPart 60 (rest.dropWhile fun c => c = ':' || isBlank c)
    some (sign * (hours * 3600 + minutes * 60), rest)
  match input with
  | 'Z' :: rest | 'z' :: rest => some (0, rest)
  | '+' :: rest => signed 1 rest
  | '-' :: rest | '\u2212' :: rest => signed (-1) rest
  | a :: b :: c :: rest => if [a, b, c].map Char.toUpper = ['U', 'T', 'C'] then some (0, rest) else none
  | _ => none

-- The moment of a date and a time of day at an offset from UTC. A second of 60 is the leap second that
-- follows 59.
def ofLocal? (date : Date) (hour minute second nanoseconds : Nat) (offset : Int) :
    Option Timestamp :=
  if !date.isValid || 24 ≤ hour || 60 ≤ minute || 61 ≤ second || 86400 ≤ offset.natAbs then none
  else
    let leap := second / 60
    let seconds := date.toDays * 86400 + (hour * 3600 + minute * 60 + (second - leap) : Nat) - offset
    if yearAllowed (Date.ofDays (seconds / 86400)).year then
      some ⟨seconds, nanoseconds + leap * 1000000000⟩
    else none

def ofText? (text : String) : Option Timestamp := do
  let (year, rest) ← yearField text.toList
  let (month, rest) ← field 2 (← mark? '-' rest)
  let (day, rest) ← field 2 (← mark? '-' rest)
  let rest ← match rest with
    | 't' :: rest | 'T' :: rest | ' ' :: rest => some rest
    | _ => none
  let (hour, rest) ← field 2 rest
  let (minute, rest) ← field 2 (← mark? ':' rest)
  let (second, rest) ← field 2 (← mark? ':' rest)
  let (nanoseconds, rest) ← fraction rest
  let (offset, rest) ← offset (trimStart rest)
  if (trimStart rest).isEmpty then ofLocal? ⟨year, month, day⟩ hour minute second nanoseconds offset
  else none

end Timestamp

end PlanChain
