import GuestStorage.Bytes

/-!
# Reading UTF-8

A machine reads one byte at a time. Bytes that no character can continue are shown as one replacement
character for each longest beginning of a character, so reading never fails.
-/

namespace GuestStorage.Utf8

def replacement : Char := '\uFFFD'

/-- Between characters, or inside one: how many bytes are owed, the range of the next one, and the
value read so far. -/
inductive State
  | ready
  | inside (owed : Nat) (low high : UInt8) (value : Nat)
  deriving DecidableEq, Repr

def lead (byte : UInt8) : Option State :=
  if byte < 0x80 then some .ready
  else if byte < 0xC2 then none
  else if byte < 0xE0 then some (.inside 1 0x80 0xBF (byte.toNat - 0xC0))
  else if byte = 0xE0 then some (.inside 2 0xA0 0xBF 0)
  else if byte = 0xED then some (.inside 2 0x80 0x9F 0xD)
  else if byte < 0xF0 then some (.inside 2 0x80 0xBF (byte.toNat - 0xE0))
  else if byte = 0xF0 then some (.inside 3 0x90 0xBF 0)
  else if byte < 0xF4 then some (.inside 3 0x80 0xBF (byte.toNat - 0xF0))
  else if byte = 0xF4 then some (.inside 3 0x80 0x8F 4)
  else none

def start (byte : UInt8) : List Char × State :=
  match lead byte with
  | none => ([replacement], .ready)
  | some .ready => ([Char.ofNat byte.toNat], .ready)
  | some next => ([], next)

def step : State → UInt8 → List Char × State
  | .ready, byte => start byte
  | .inside owed low high value, byte =>
    if low ≤ byte ∧ byte ≤ high then
      let value := value * 64 + (byte.toNat - 0x80)
      if owed ≤ 1 then ([Char.ofNat value], .ready) else ([], .inside (owed - 1) 0x80 0xBF value)
    else
      let (characters, next) := start byte
      (replacement :: characters, next)

def decodeFrom : State → Bytes → List Char
  | .ready, [] => []
  | .inside .., [] => [replacement]
  | state, byte :: rest =>
    let (characters, next) := step state byte
    characters ++ decodeFrom next rest

def decode (data : Bytes) : String := String.ofList (decodeFrom .ready data)

def encode (text : String) : Bytes := text.toUTF8.data.toList

def decode? (data : Bytes) : Option String :=
  if encode (decode data) = data then some (decode data) else none

end GuestStorage.Utf8
