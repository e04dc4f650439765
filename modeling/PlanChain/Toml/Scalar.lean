import PlanChain.Text.Reader
import PlanChain.Timestamp
import PlanChain.Toml.Node

set_option autoImplicit false

namespace PlanChain.Toml

open Text

def isGap (c : Char) : Bool := c = ' ' || c = '\t'

def skipGaps (input : List Char) : List Char := input.dropWhile isGap

def isPlain (c : Char) : Bool := c = '\t' || (0x20 ≤ c.toNat && c.toNat ≠ 0x7F)

def lineBreak? : List Char → Option (List Char)
  | '\n' :: rest | '\r' :: '\n' :: rest => some rest
  | _ => none

def escaped? : Char → Option Char
  | 'b' => some '\x08'
  | 't' => some '\t'
  | 'n' => some '\n'
  | 'f' => some '\x0c'
  | 'r' => some '\r'
  | '"' => some '"'
  | '\\' => some '\\'
  | _ => none

def codePoint? (digits : List Char) : Option Char :=
  (hexadecimal? digits).bind fun code => if code.isValidChar then some (Char.ofNat code) else none

def prepend (c : Char) (read : Option (List Char × List Char)) : Option (List Char × List Char) :=
  read.map fun (body, rest) => (c :: body, rest)

def basicTail : Reader (List Char)
  | [] => none
  | '"' :: rest => some ([], rest)
  | '\\' :: 'u' :: a :: b :: c :: d :: rest =>
    (codePoint? [a, b, c, d]).bind fun c => prepend c (basicTail rest)
  | '\\' :: 'U' :: a :: b :: c :: d :: e :: f :: g :: h :: rest =>
    (codePoint? [a, b, c, d, e, f, g, h]).bind fun c => prepend c (basicTail rest)
  | '\\' :: letter :: rest => (escaped? letter).bind fun c => prepend c (basicTail rest)
  | c :: rest => if c = '\\' || !isPlain c then none else prepend c (basicTail rest)

def literalTail : Reader (List Char)
  | [] => none
  | '\x27' :: rest => some ([], rest)
  | c :: rest => if isPlain c then prepend c (literalTail rest) else none

-- What follows three closing quotes: up to two more that belong to the string.
def closing (quote : Char) : Reader (List Char)
  | a :: b :: rest =>
    if a = quote && b = quote then some ([a, b], rest)
    else if a = quote then some ([a], b :: rest)
    else some ([], a :: b :: rest)
  | [a] => if a = quote then some ([a], []) else some ([], [a])
  | [] => some ([], [])

-- A basic string of several lines, read after its opening quotes. A backslash at the end of a line leaves
-- out all blanks up to the next character; `folding` tells that they are being left out.
def basicLines (folding : Bool) : Reader (List Char)
  | [] => none
  | '"' :: '"' :: '"' :: rest => closing '"' rest
  | '\\' :: 'u' :: a :: b :: c :: d :: rest =>
    (codePoint? [a, b, c, d]).bind fun c => prepend c (basicLines false rest)
  | '\\' :: 'U' :: a :: b :: c :: d :: e :: f :: g :: h :: rest =>
    (codePoint? [a, b, c, d, e, f, g, h]).bind fun c => prepend c (basicLines false rest)
  | '\r' :: '\n' :: rest =>
    if folding then basicLines true rest else prepend '\n' (basicLines false rest)
  | '\\' :: c :: rest =>
    if (lineBreak? (skipGaps (c :: rest))).isSome then basicLines true (c :: rest)
    else (escaped? c).bind fun c => prepend c (basicLines false rest)
  | c :: rest =>
    if folding && (isGap c || c = '\n') then basicLines true rest
    else if c = '\\' || !(isPlain c || c = '\n') then none
    else prepend c (basicLines false rest)

def literalLines : Reader (List Char)
  | [] => none
  | '\x27' :: '\x27' :: '\x27' :: rest => closing '\x27' rest
  | '\r' :: '\n' :: rest => prepend '\n' (literalLines rest)
  | c :: rest => if isPlain c || c = '\n' then prepend c (literalLines rest) else none

-- A line break right after opening quotes does not belong to the string.
def afterOpening (input : List Char) : List Char := (lineBreak? input).getD input

def stringValue : Reader String := fun input =>
  (match input with
    | '"' :: '"' :: '"' :: rest => basicLines false (afterOpening rest)
    | '\x27' :: '\x27' :: '\x27' :: rest => literalLines (afterOpening rest)
    | '"' :: rest => basicTail rest
    | '\x27' :: rest => literalTail rest
    | _ => none).map fun (body, rest) => (String.ofList body, rest)

def groupedTail (digit? : Char → Option Nat) : List Char → List Nat × List Char
  | [] => ([], [])
  | '_' :: c :: rest =>
    match digit? c with
    | some digit => let (more, left) := groupedTail digit? rest; (digit :: more, left)
    | none => ([], '_' :: c :: rest)
  | c :: rest =>
    match digit? c with
    | some digit => let (more, left) := groupedTail digit? rest; (digit :: more, left)
    | none => ([], c :: rest)

def grouped (digit? : Char → Option Nat) : Reader (List Nat)
  | [] => none
  | c :: rest =>
    (digit? c).map fun digit => let (more, left) := groupedTail digit? rest; (digit :: more, left)

def digitBelow (base : Nat) (c : Char) : Option Nat := (decimalDigit? c).filter (· < base)

def sign : List Char → Bool × List Char
  | '-' :: rest => (true, rest)
  | '+' :: rest => (false, rest)
  | input => (false, input)

def whole : Reader (List Nat) := fun input =>
  match input with
  | '0' :: rest => some ([0], rest)
  | _ => grouped decimalDigit? input

def integerNode (value : Int) : Option Node :=
  (Word.int64? value).map .integer

def integerValue : Reader Node := fun input =>
  let based (base : Nat) (digit? : Char → Option Nat) : Reader Node := fun rest => do
    let (digits, rest) ← grouped digit? rest
    some (← integerNode (ofDigits base digits), rest)
  match input with
  | '0' :: 'x' :: rest => based 16 hexDigit? rest
  | '0' :: 'o' :: rest => based 8 (digitBelow 8) rest
  | '0' :: 'b' :: rest => based 2 (digitBelow 2) rest
  | _ => do
    let (negative, rest) := sign input
    let (digits, rest) ← whole rest
    let value : Int := ofDigits 10 digits
    some (← integerNode (if negative then -value else value), rest)

-- The number nearest to a natural number times a power of ten. Beyond some powers it is infinite or zero
-- whatever the digits are.
def scaled (negative : Bool) (digits : Nat) (exponent : Int) : Binary64 :=
  let places : Int := (decimal digits).length + exponent
  if digits = 0 || places < -400 then .ofParts negative 0
  else if 400 < places then .ofParts negative Binary64.infinity
  else if exponent < 0 then .ofRatio negative digits (Nat.pow 10 (-exponent).toNat)
  else .ofRatio negative (digits * Nat.pow 10 exponent.toNat) 1

def exponentPart : Reader (Option Int) := fun input =>
  let digits (rest : List Char) : Option (Option Int × List Char) := do
    let (negative, rest) := sign rest
    let (digits, rest) ← grouped decimalDigit? rest
    let value : Int := ofDigits 10 digits
    some (some (if negative then -value else value), rest)
  match input with
  | 'e' :: rest | 'E' :: rest => digits rest
  | _ => some (none, input)

def fractionPart : Reader (Option (List Nat)) := fun input =>
  match input with
  | '.' :: rest => (grouped decimalDigit? rest).map fun (digits, rest) => (some digits, rest)
  | _ => some (none, input)

-- A number with a fraction or an exponent. One that is too great is refused, unless it is negative.
def decimalFloat : Reader Node := fun input => do
  let (negative, rest) := sign input
  let (digits, rest) ← whole rest
  let (fraction, rest) ← fractionPart rest
  let (exponent, rest) ← exponentPart rest
  if fraction.isNone && exponent.isNone then none
  else
    let places := (fraction.getD []).length
    let value := scaled negative (ofDigits 10 (digits ++ fraction.getD [])) (exponent.getD 0 - places)
    if value.isFinite || negative then some (.float value, rest) else none

def namedFloat : Reader Node := fun input =>
  let (negative, rest) := sign input
  match rest with
  | 'i' :: 'n' :: 'f' :: rest => some (.float (.ofParts negative Binary64.infinity), rest)
  | 'n' :: 'a' :: 'n' :: rest => some (.float (.ofParts negative Binary64.quietNaN), rest)
  | _ => none

def ranged (count low high : Nat) : Reader Nat := fun input =>
  (fixedDigits count input).filter fun found => low ≤ found.1 && found.1 ≤ high

def afterDate? (input : List Char) : Option (List Char) := do
  let (year, rest) ← fixedDigits 4 input
  let (month, rest) ← ranged 2 1 12 (← after? ['-'] rest)
  let (_, rest) ← ranged 2 1 (Timestamp.daysInMonth year month) (← after? ['-'] rest)
  some rest

def afterTime? (input : List Char) : Option (List Char) := do
  let (_, rest) ← ranged 2 0 23 input
  let (_, rest) ← ranged 2 0 59 (← after? [':'] rest)
  let (_, rest) ← ranged 2 0 60 (← after? [':'] rest)
  match rest with
  | '.' :: c :: more => if isDecimalDigit c then some (more.dropWhile isDecimalDigit) else none
  | '.' :: [] => none
  | _ => some rest

def afterOffset? (input : List Char) : Option (List Char) :=
  match input with
  | 'Z' :: rest | 'z' :: rest => some rest
  | '+' :: rest | '-' :: rest => do
    let (_, rest) ← ranged 2 0 23 rest
    let (_, rest) ← ranged 2 0 59 (← after? [':'] rest)
    some rest
  | _ => none

def afterMoment? (input : List Char) : Option (List Char) :=
  match afterDate? input with
  | none => afterTime? input
  | some rest =>
    match rest with
    | 'T' :: time | 't' :: time | ' ' :: time =>
      match afterTime? time with
      | none => some rest
      | some rest => some ((afterOffset? rest).getD rest)
    | _ => some rest

def momentValue : Reader Node := fun input =>
  (afterMoment? input).map fun rest =>
    (.moment (String.ofList (input.take (input.length - rest.length))), rest)

def numeric : Reader Node := fun input =>
  momentValue input <|> decimalFloat input <|> namedFloat input <|> integerValue input

def scalar : Reader Node := fun input =>
  match input with
  | '"' :: _ | '\x27' :: _ => (stringValue input).map fun (text, rest) => (.text text, rest)
  | 't' :: _ => (after? ['t', 'r', 'u', 'e'] input).map (.boolean true, ·)
  | 'f' :: _ => (after? ['f', 'a', 'l', 's', 'e'] input).map (.boolean false, ·)
  | _ => numeric input

end PlanChain.Toml
