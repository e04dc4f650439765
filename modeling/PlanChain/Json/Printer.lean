import PlanChain.Binary64.Shortest
import PlanChain.Json.Basic

set_option autoImplicit false

namespace PlanChain

open Text

namespace Number

def positional (digits : List Char) (point : Int) : List Char :=
  if point ≤ 0 then '0' :: '.' :: List.replicate (-point).toNat '0' ++ digits
  else
    let whole := point.toNat
    let fraction := digits.drop whole
    digits.take whole ++ List.replicate (whole - digits.length) '0' ++ '.'
      :: if fraction.isEmpty then ['0'] else fraction

def scientific (digits : List Char) (power : Int) : List Char :=
  digits.take 1 ++ (if digits.length ≤ 1 then [] else '.' :: digits.drop 1)
    ++ 'e' :: (if power < 0 then [] else ['+']) ++ signedDecimal power

-- A magnitude is written with its shortest digits, positionally when its point stands from four places
-- before the digits to sixteen after the first.
def magnitudeChars (magnitude : Nat) : List Char :=
  if magnitude = 0 then ['0', '.', '0']
  else
    let shortest := Binary64.shortest magnitude
    let digits := decimal shortest.digits
    let point : Int := digits.length + shortest.exponent
    if -5 < point ∧ point ≤ 16 then positional digits point else scientific digits (point - 1)

def chars : Number → List Char
  | int value => signedDecimal value
  | float value => (if value.isNegative then ['-'] else []) ++ magnitudeChars value.magnitude

end Number

namespace Json

def escapeChar (c : Char) : List Char :=
  match c with
  | '"' => ['\\', '"']
  | '\\' => ['\\', '\\']
  | '\x08' => ['\\', 'b']
  | '\x0c' => ['\\', 'f']
  | '\n' => ['\\', 'n']
  | '\r' => ['\\', 'r']
  | '\t' => ['\\', 't']
  | _ =>
    if c.toNat < 0x20 then ['\\', 'u'] ++ padded 4 (hexadecimal c.toNat) else [c]

def stringChars (value : String) : List Char :=
  '"' :: value.toList.flatMap escapeChar ++ ['"']

mutual
def chars : Json → List Char
  | .null => ['n', 'u', 'l', 'l']
  | .bool true => ['t', 'r', 'u', 'e']
  | .bool false => ['f', 'a', 'l', 's', 'e']
  | .num value => value.chars
  | .str value => stringChars value
  | .arr items => '[' :: [','].intercalate (itemChars items) ++ [']']
  | .obj members => '\x7b' :: [','].intercalate (memberChars members) ++ ['\x7d']

def itemChars : List Json → List (List Char)
  | [] => []
  | item :: rest => item.chars :: itemChars rest

def memberChars : List (String × Json) → List (List Char)
  | [] => []
  | (name, value) :: rest => (stringChars name ++ ':' :: value.chars) :: memberChars rest
end

def compact (json : Json) : String := String.ofList json.chars

def lineBreak (level : Nat) : List Char := '\n' :: List.replicate (2 * level) ' '

def block (level : Nat) (opening closing : Char) (pieces : List (List Char)) : List Char :=
  if pieces.isEmpty then [opening, closing]
  else
    opening :: lineBreak (level + 1) ++ (',' :: lineBreak (level + 1)).intercalate pieces
      ++ lineBreak level ++ [closing]

mutual
def prettyChars (level : Nat) : Json → List Char
  | .arr items => block level '[' ']' (prettyItems (level + 1) items)
  | .obj members => block level '\x7b' '\x7d' (prettyMembers (level + 1) members)
  | .null => chars .null
  | .bool value => chars (.bool value)
  | .num value => chars (.num value)
  | .str value => chars (.str value)

def prettyItems (level : Nat) : List Json → List (List Char)
  | [] => []
  | item :: rest => prettyChars level item :: prettyItems level rest

def prettyMembers (level : Nat) : List (String × Json) → List (List Char)
  | [] => []
  | (name, value) :: rest =>
    (stringChars name ++ ':' :: ' ' :: prettyChars level value) :: prettyMembers level rest
end

def pretty (json : Json) : String := String.ofList (prettyChars 0 json)

end Json

end PlanChain
