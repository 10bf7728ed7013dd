import GuestStorage.Bytes

/-!
# The block cipher

AES with a key of 128 bits. A byte is a polynomial over the field with two elements, reduced modulo
x⁸ + x⁴ + x³ + x + 1. The substitution box is computed from its definition: an affine map after the
inverse, which is the 254th power.
-/

namespace GuestStorage.Aes

def timesX (byte : UInt8) : UInt8 := (byte <<< 1) ^^^ (if byte ≥ 0x80 then 0x1B else 0)

def multiplyBits : Nat → UInt8 → UInt8 → UInt8
  | 0, _, _ => 0
  | bits + 1, left, right =>
    (if right &&& 1 = 1 then left else 0) ^^^ multiplyBits bits (timesX left) (right >>> 1)

def multiply (left right : UInt8) : UInt8 := multiplyBits 8 left right

/-- The power 254 as 2 + 4 + 8 + 16 + 32 + 64 + 128. -/
def inverse (byte : UInt8) : UInt8 :=
  let square := fun value => multiply value value
  let second := square byte
  let fourth := square second
  let eighth := square fourth
  let sixteenth := square eighth
  let thirtySecond := square sixteenth
  let sixtyFourth := square thirtySecond
  [fourth, eighth, sixteenth, thirtySecond, sixtyFourth, square sixtyFourth].foldl multiply second

def rotateLeft (byte : UInt8) (amount : UInt8) : UInt8 :=
  (byte <<< amount) ||| (byte >>> (8 - amount))

def substituted (byte : UInt8) : UInt8 :=
  let value := inverse byte
  value ^^^ rotateLeft value 1 ^^^ rotateLeft value 2 ^^^ rotateLeft value 3 ^^^
    rotateLeft value 4 ^^^ 0x63

def substitutionBox : Vector UInt8 256 := Vector.ofFn fun index => substituted (.ofNat index)

def substitute (byte : UInt8) : UInt8 := substitutionBox.get ⟨byte.toNat, byte.toNat_lt⟩

structure Column where
  first : UInt8
  second : UInt8
  third : UInt8
  fourth : UInt8
  deriving DecidableEq, Repr

namespace Column

def zero : Column := ⟨0, 0, 0, 0⟩

def map (f : UInt8 → UInt8) (column : Column) : Column :=
  ⟨f column.first, f column.second, f column.third, f column.fourth⟩

def xor (left right : Column) : Column :=
  ⟨left.first ^^^ right.first, left.second ^^^ right.second, left.third ^^^ right.third,
    left.fourth ^^^ right.fourth⟩

def rotate (column : Column) : Column :=
  ⟨column.second, column.third, column.fourth, column.first⟩

def blend (first second third fourth : UInt8) : UInt8 :=
  timesX first ^^^ timesX second ^^^ second ^^^ third ^^^ fourth

def mix (column : Column) : Column :=
  ⟨blend column.first column.second column.third column.fourth,
    blend column.second column.third column.fourth column.first,
    blend column.third column.fourth column.first column.second,
    blend column.fourth column.first column.second column.third⟩

def toBytes (column : Column) : Bytes :=
  [column.first, column.second, column.third, column.fourth]

def ofBytes (data : Bytes) (offset : Nat) : Column :=
  ⟨Bytes.byteAt data offset, Bytes.byteAt data (offset + 1), Bytes.byteAt data (offset + 2),
    Bytes.byteAt data (offset + 3)⟩

end Column

structure Block where
  first : Column
  second : Column
  third : Column
  fourth : Column
  deriving DecidableEq, Repr

namespace Block

def zero : Block := ⟨.zero, .zero, .zero, .zero⟩

def map (f : Column → Column) (block : Block) : Block :=
  ⟨f block.first, f block.second, f block.third, f block.fourth⟩

def xor (left right : Block) : Block :=
  ⟨left.first.xor right.first, left.second.xor right.second, left.third.xor right.third,
    left.fourth.xor right.fourth⟩

def shiftRows (block : Block) : Block :=
  ⟨⟨block.first.first, block.second.second, block.third.third, block.fourth.fourth⟩,
    ⟨block.second.first, block.third.second, block.fourth.third, block.first.fourth⟩,
    ⟨block.third.first, block.fourth.second, block.first.third, block.second.fourth⟩,
    ⟨block.fourth.first, block.first.second, block.second.third, block.third.fourth⟩⟩

def toBytes (block : Block) : Bytes :=
  block.first.toBytes ++ block.second.toBytes ++ block.third.toBytes ++ block.fourth.toBytes

def ofBytes (data : Bytes) : Block :=
  ⟨.ofBytes data 0, .ofBytes data 4, .ofBytes data 8, .ofBytes data 12⟩

@[simp] theorem length_toBytes (block : Block) : block.toBytes.length = 16 := rfl

end Block

def nextKey (constant : UInt8) (key : Block) : Block :=
  let turned := key.fourth.rotate.map substitute
  let first := key.first.xor (turned.xor ⟨constant, 0, 0, 0⟩)
  let second := key.second.xor first
  let third := key.third.xor second
  ⟨first, second, third, key.fourth.xor third⟩

def keysFrom : Nat → UInt8 → Block → List Block
  | 0, _, key => [key]
  | rounds + 1, constant, key =>
    key :: keysFrom rounds (timesX constant) (nextKey constant key)

def roundKeys (key : Block) : List Block := keysFrom 10 1 key

def confuse (block : Block) : Block := (block.map (·.map substitute)).shiftRows

def rounds : List Block → Block → Block
  | [], state => state
  | [last], state => (confuse state).xor last
  | key :: rest, state => rounds rest (((confuse state).map Column.mix).xor key)

def encryptWith (keys : List Block) (block : Block) : Block :=
  match keys with
  | [] => block
  | first :: rest => rounds rest (block.xor first)

def encrypt (key block : Block) : Block := encryptWith (roundKeys key) block

end GuestStorage.Aes
