import PlanChain.Text.Blank
import PlanChain.Text.Composition
import PlanChain.Text.CombiningClass
import PlanChain.Text.Decomposition

set_option autoImplicit false

namespace PlanChain.Text

namespace Hangul

def syllableBase : Nat := 0xAC00
def leadBase : Nat := 0x1100
def vowelBase : Nat := 0x1161
def tailBase : Nat := 0x11A7
def leadCount : Nat := 19
def vowelCount : Nat := 21
def tailCount : Nat := 28
def syllableCount : Nat := leadCount * vowelCount * tailCount

def decompose? (c : Char) : Option (List Char) :=
  let code := c.toNat
  if code < syllableBase ∨ syllableBase + syllableCount ≤ code then none
  else
    let index := code - syllableBase
    let lead := Char.ofNat (leadBase + index / (vowelCount * tailCount))
    let vowel := Char.ofNat (vowelBase + index % (vowelCount * tailCount) / tailCount)
    let tail := index % tailCount
    some (lead :: vowel :: if tail = 0 then [] else [Char.ofNat (tailBase + tail)])

-- A lead and a vowel make a syllable without tail; such a syllable and a tail make one with it.
def compose? (first second : Char) : Option Char :=
  let a := first.toNat
  let b := second.toNat
  if leadBase ≤ a ∧ a < leadBase + leadCount ∧ vowelBase ≤ b ∧ b < vowelBase + vowelCount then
    some (Char.ofNat (syllableBase
      + ((a - leadBase) * vowelCount + (b - vowelBase)) * tailCount))
  else if syllableBase ≤ a ∧ a < syllableBase + syllableCount ∧ (a - syllableBase) % tailCount = 0
      ∧ tailBase < b ∧ b < tailBase + tailCount then
    some (Char.ofNat (a + (b - tailBase)))
  else none

end Hangul

def decompose (c : Char) : List Char :=
  match Hangul.decompose? c with
  | some jamo => jamo
  | none => (decompositions.get? c.toNat).getD [c]

def compose? (first second : Char) : Option Char :=
  match Hangul.compose? first second with
  | some syllable => some syllable
  | none => composites.get? (first.toNat, second.toNat)

def placeMark (c : Char) : List Char → List Char
  | [] => [c]
  | d :: rest =>
    if 0 < combiningClass d ∧ combiningClass d < combiningClass c then d :: placeMark c rest
    else c :: d :: rest

-- Canonical order: within each run of marks, classes never decrease.
def orderMarks (text : List Char) : List Char := text.foldr placeMark []

-- Composes into a starter what follows it. `marks` holds the marks after the starter that did not compose,
-- the latest first; a character reaches the starter only past marks of lower class.
def composeFrom (starter : Char) (marks : List Char) : List Char → List Char
  | [] => starter :: marks.reverse
  | c :: rest =>
    let reaches := marks.head?.all fun mark => combiningClass mark < combiningClass c
    match if reaches then compose? starter c else none with
    | some composite => composeFrom composite marks rest
    | none =>
      if combiningClass c = 0 then starter :: (marks.reverse ++ composeFrom c [] rest)
      else composeFrom starter (c :: marks) rest

def composeAll : List Char → List Char
  | [] => []
  | c :: rest => if combiningClass c = 0 then composeFrom c [] rest else c :: composeAll rest

-- Form C. A text of characters below U+0300 has it already: none of them combines.
def nfcChars (text : List Char) : List Char :=
  if text.all (·.toNat < 0x300) then text
  else composeAll (orderMarks (text.flatMap decompose))

def nfc (text : String) : String := String.ofList (nfcChars text.toList)

-- The normal form of a text: form C, then trimmed.
def normalize (text : String) : String := String.ofList (trim (nfcChars text.toList))

end PlanChain.Text
