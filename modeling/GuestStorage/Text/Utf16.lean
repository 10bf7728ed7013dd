import GuestStorage.Bytes
import GuestStorage.Text.Utf8

namespace GuestStorage.Utf16

abbrev Units := List UInt16

def isHigh (unit : UInt16) : Bool := 0xD800 ≤ unit && unit < 0xDC00

def isLow (unit : UInt16) : Bool := 0xDC00 ≤ unit && unit < 0xE000

def pair (high low : UInt16) : Char :=
  Char.ofNat (0x10000 + (high.toNat - 0xD800) * 0x400 + (low.toNat - 0xDC00))

def start (unit : UInt16) : List Char × Option UInt16 :=
  if isHigh unit then ([], some unit)
  else if isLow unit then ([Utf8.replacement], none)
  else ([Char.ofNat unit.toNat], none)

def step : Option UInt16 → UInt16 → List Char × Option UInt16
  | none, unit => start unit
  | some high, unit =>
    if isLow unit then ([pair high unit], none)
    else
      let (characters, waiting) := start unit
      (Utf8.replacement :: characters, waiting)

def decodeFrom : Option UInt16 → Units → List Char
  | none, [] => []
  | some _, [] => [Utf8.replacement]
  | waiting, unit :: rest =>
    let (characters, next) := step waiting unit
    characters ++ decodeFrom next rest

def decode (units : Units) : String := String.ofList (decodeFrom none units)

/-- The units of little-endian bytes; a last odd byte is dropped. -/
def ofBytes : Bytes → Units
  | low :: high :: rest => (low.toUInt16 ||| (high.toUInt16 <<< 8)) :: ofBytes rest
  | _ => []

def toBytes (units : Units) : Bytes :=
  units.flatMap fun (unit : UInt16) => [unit.toUInt8, (unit >>> 8).toUInt8]

end GuestStorage.Utf16
