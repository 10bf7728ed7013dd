import GuestStorage.Bytes

/-!
# Short names

A file name is shown to guests also as eight bytes and an extension of three. The name is split at its
last point that is not its last byte. Bytes that a short name cannot hold are left out of the first
part, which is cut to six bytes and `~1` where more than eight remain.
-/

namespace GuestStorage

structure ShortName where
  stem : Bytes
  extension : Bytes
  deriving DecidableEq, Repr

namespace ShortName

def point : UInt8 := 0x2E

def space : UInt8 := 0x20

/-- Point, quote, both slashes, both brackets, colon, semicolon, equals sign, comma and space. -/
def forbidden : Bytes :=
  [0x2E, 0x22, 0x2F, 0x5C, 0x5B, 0x5D, 0x3A, 0x3B, 0x3D, 0x2C, 0x20]

def upper (letter : UInt8) : UInt8 :=
  if 0x61 ≤ letter ∧ letter ≤ 0x7A then letter - 0x20 else letter

/-- What stands before the last point that is not the final byte, and what stands after it. -/
def split (name : Bytes) : Bytes × Bytes :=
  match name.dropLast.reverse.dropWhile (· ≠ point) with
  | [] => (name, [])
  | _ :: stem => (stem.reverse, name.drop (stem.length + 1))

def shorten (letters : Bytes) : Bytes :=
  if letters.length ≤ 8 then letters else letters.take 6 ++ [0x7E, 0x31]

def pad (width : Nat) (letters : Bytes) : Bytes := letters.rightpad width space

def ofName (name : Bytes) : ShortName :=
  let (stem, extension) := split name
  { stem := pad 8 (shorten ((stem.filter fun letter => !forbidden.contains letter).map upper))
    extension := pad 3 ((extension.take 3).map upper) }

end ShortName

end GuestStorage
