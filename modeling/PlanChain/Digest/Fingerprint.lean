import PlanChain.Text.Digits

/-! 32-bit FNV-1a over the UTF-16 code units of a text. -/

set_option autoImplicit false

namespace PlanChain.Digest

def utf16 (c : Char) : List UInt32 :=
  let code := c.toNat
  if code < 0x10000 then [UInt32.ofNat code]
  else
    [UInt32.ofNat (0xD800 + (code - 0x10000) / 0x400),
      UInt32.ofNat (0xDC00 + (code - 0x10000) % 0x400)]

def fnvOffset : UInt32 := 2166136261

def fnvPrime : UInt32 := 16777619

def fnv1a (units : List UInt32) : UInt32 :=
  units.foldl (fun hash unit => (hash ^^^ unit) * fnvPrime) fnvOffset

def fingerprint (text : String) : String :=
  String.ofList <|
    'h' :: Text.padded 8 (Text.hexadecimal (fnv1a (text.toList.flatMap utf16)).toNat)

end PlanChain.Digest
