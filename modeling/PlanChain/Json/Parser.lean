import PlanChain.Json.Numeral
import PlanChain.Table
import PlanChain.Text.Reader

/-! Of two members with one name the later counts, and the members of a read object ascend by name. Arrays and
objects nest at most 127 deep. -/

set_option autoImplicit false

namespace PlanChain.Json

open Text

def isSpace (c : Char) : Bool := c = ' ' || c = '\n' || c = '\t' || c = '\r'

def skipSpaces (input : List Char) : List Char := input.dropWhile isSpace

def digits : List Char → List Nat × List Char
  | [] => ([], [])
  | c :: rest =>
    match decimalDigit? c with
    | some digit => let (more, left) := digits rest; (digit :: more, left)
    | none => ([], c :: rest)

def codeUnit (a b c d : Char) : Option Nat := hexadecimal? [a, b, c, d]

def escaped? : Char → Option Char
  | '"' => some '"'
  | '\\' => some '\\'
  | '/' => some '/'
  | 'b' => some '\x08'
  | 'f' => some '\x0c'
  | 'n' => some '\n'
  | 'r' => some '\r'
  | 't' => some '\t'
  | _ => none

def isLeadSurrogate (unit : Nat) : Bool := 0xD800 ≤ unit && unit ≤ 0xDBFF

def isTrailSurrogate (unit : Nat) : Bool := 0xDC00 ≤ unit && unit ≤ 0xDFFF

def ofSurrogates (lead trail : Nat) : Char :=
  Char.ofNat (0x10000 + (lead - 0xD800) * 0x400 + (trail - 0xDC00))

def prepend (c : Char) (read : Option (List Char × List Char)) : Option (List Char × List Char) :=
  read.map fun (body, rest) => (c :: body, rest)

-- The rest of a string, read after its opening quote. Two escaped surrogates stand for one character; a
-- surrogate alone is refused, and so is a control that is not escaped.
def stringBody : Reader (List Char)
  | [] => none
  | '"' :: rest => some ([], rest)
  | '\\' :: 'u' :: a :: b :: c :: d :: rest =>
    match codeUnit a b c d with
    | none => none
    | some unit =>
      if isTrailSurrogate unit then none
      else if isLeadSurrogate unit then
        match rest with
        | '\\' :: 'u' :: e :: f :: g :: h :: rest =>
          match codeUnit e f g h with
          | none => none
          | some trail =>
            if isTrailSurrogate trail then prepend (ofSurrogates unit trail) (stringBody rest)
            else none
        | _ => none
      else prepend (Char.ofNat unit) (stringBody rest)
  | '\\' :: letter :: rest =>
    match escaped? letter with
    | some c => prepend c (stringBody rest)
    | none => none
  | c :: rest => if c = '\\' || c.toNat < 0x20 then none else prepend c (stringBody rest)

def stringTail : Reader String := fun input =>
  (stringBody input).map fun (body, rest) => (String.ofList body, rest)

def wholeDigits : Reader (List Nat) := fun input =>
  match digits input with
  | ([], _) => none
  | (0 :: _ :: _, _) => none
  | found => some found

def fractionDigits : Reader (List Nat)
  | '.' :: rest =>
    match digits rest with
    | ([], _) => none
    | found => some found
  | input => some ([], input)

def exponentPart : Reader (Option (Bool × List Nat)) := fun input =>
  let unsigned (negative : Bool) (text : List Char) : Option (Option (Bool × List Nat) × List Char) :=
    match digits text with
    | ([], _) => none
    | (found, rest) => some (some (negative, found), rest)
  match input with
  | 'e' :: '+' :: rest | 'E' :: '+' :: rest => unsigned false rest
  | 'e' :: '-' :: rest | 'E' :: '-' :: rest => unsigned true rest
  | 'e' :: rest | 'E' :: rest => unsigned false rest
  | _ => some (none, input)

def number (negative : Bool) : Reader Number := fun input => do
  let (whole, rest) ← wholeDigits input
  let (fraction, rest) ← fractionDigits rest
  let (exponent, rest) ← exponentPart rest
  let value ← Number.Parts.number? { negative, whole, fraction, exponent }
  some (value, rest)

def items (value : Reader Json) : (fuel : Nat) → Reader (List Json)
  | 0, _ => none
  | fuel + 1, input => do
    let (item, rest) ← value (skipSpaces input)
    match skipSpaces rest with
    | ']' :: rest => some ([item], rest)
    | ',' :: rest =>
      let (more, rest) ← items value fuel rest
      some (item :: more, rest)
    | _ => none

def members (value : Reader Json) : (fuel : Nat) → Reader (List (String × Json))
  | 0, _ => none
  | fuel + 1, input => do
    let (name, rest) ← (after? ['"'] (skipSpaces input)).bind stringTail
    let rest ← after? [':'] (skipSpaces rest)
    let (item, rest) ← value (skipSpaces rest)
    match skipSpaces rest with
    | '\x7d' :: rest => some ([(name, item)], rest)
    | ',' :: rest =>
      let (more, rest) ← members value fuel rest
      some ((name, item) :: more, rest)
    | _ => none

def ofMembers (found : List (String × Json)) : Json := .obj (Table.ofList found).entries

-- A value that starts with the first character of the text, with at most `depth` levels of arrays and
-- objects, none of more than `limit` items.
def value (limit : Nat) : (depth : Nat) → Reader Json
  | depth, input =>
    match input with
    | 'n' :: rest => (after? ['u', 'l', 'l'] rest).map (.null, ·)
    | 't' :: rest => (after? ['r', 'u', 'e'] rest).map (.bool true, ·)
    | 'f' :: rest => (after? ['a', 'l', 's', 'e'] rest).map (.bool false, ·)
    | '"' :: rest => (stringTail rest).map fun (text, rest) => (.str text, rest)
    | '-' :: rest => (number true rest).map fun (found, rest) => (.num found, rest)
    | '[' :: rest =>
      match depth with
      | 0 => none
      | depth + 1 =>
        match skipSpaces rest with
        | ']' :: rest => some (.arr [], rest)
        | inner =>
          (items (value limit depth) limit inner).map fun (found, rest) => (.arr found, rest)
    | '\x7b' :: rest =>
      match depth with
      | 0 => none
      | depth + 1 =>
        match skipSpaces rest with
        | '\x7d' :: rest => some (.obj [], rest)
        | inner =>
          (members (value limit depth) limit inner).map fun (found, rest) =>
            (ofMembers found, rest)
    | input => (number false input).map fun (found, rest) => (.num found, rest)

def depthLimit : Nat := 127

-- The document a text holds; none when it is not one JSON value with spaces around it. A text has fewer
-- items than characters.
def parse? (text : String) : Option Json :=
  match value text.length depthLimit (skipSpaces text.toList) with
  | some (found, rest) => if (skipSpaces rest).isEmpty then some found else none
  | none => none

end PlanChain.Json
