import GuestStorage.Text.Numeral
import GuestStorage.Text.Utf8
import GuestStorage.Text.Utf16

namespace GuestStorage

inductive PathEncoding
  | invalid | empty | binary | char | wide
  deriving DecidableEq, Repr

namespace PathEncoding

def code : PathEncoding → UInt32
  | invalid => 0
  | empty => 1
  | binary => 2
  | char => 3
  | wide => 4

def name : PathEncoding → String
  | invalid => "Invalid"
  | empty => "Empty"
  | binary => "Binary"
  | char => "Char"
  | wide => "Wchar"

def ofCode (code : UInt32) : PathEncoding :=
  if code = 1 then empty
  else if code = 2 then binary
  else if code = 3 then char
  else if code = 4 then wide
  else invalid

end PathEncoding

inductive GuestPath
  | invalid
  | empty
  | binary (data : Bytes)
  | char (text : String)
  | wide (units : Utf16.Units)
  deriving DecidableEq, Repr

namespace GuestPath

/-- Text ends at its first zero byte or unit; an odd last byte of wide text is dropped. -/
def ofRaw (encoding : PathEncoding) (data : Bytes) : GuestPath :=
  match encoding with
  | .invalid => invalid
  | .empty => empty
  | .binary => binary data
  | .char => char (Utf8.decode (Bytes.untilZero data))
  | .wide => wide ((Utf16.ofBytes data).takeWhile (· ≠ 0))

def encoding : GuestPath → PathEncoding
  | invalid => .invalid
  | empty => .empty
  | binary _ => .binary
  | char _ => .char
  | wide _ => .wide

def text : GuestPath → String
  | char text => text
  | wide units => Utf16.decode units
  | invalid | empty | binary _ => ""

def bytes : GuestPath → Bytes
  | binary data => data
  | char text => Utf8.encode text
  | wide units => Utf16.toBytes units
  | invalid | empty => []

/-- Word `index` of the buffer, zero where the buffer is too short for the whole word. -/
def word (path : GuestPath) (index : Nat) : UInt32 :=
  let data := path.bytes
  if index * 4 + 4 ≤ data.length then Bytes.word32 data (index * 4) else 0

def display : GuestPath → String
  | invalid => "[Invalid]"
  | empty => "[Empty]"
  | binary data => "[Binary: " ++ Numeral.ofBytes data ++ "]"
  | char text => "[Char: " ++ text ++ "]"
  | wide units => "[Wchar: " ++ Utf16.decode units ++ "]"

def ofExtSaveData (medium high low : UInt32) : GuestPath :=
  binary (Bytes.ofNatLE 4 medium.toNat ++ Bytes.ofNatLE 4 low.toNat ++ Bytes.ofNatLE 4 high.toNat)

def ofSystemSaveData (high low : UInt32) : GuestPath :=
  binary (Bytes.ofNatLE 4 high.toNat ++ Bytes.ofNatLE 4 low.toNat)

end GuestPath

end GuestStorage
