namespace GuestStorage

abbrev Bytes := List UInt8

namespace Bytes

def toNatLE : Bytes → Nat
  | [] => 0
  | byte :: rest => byte.toNat + 256 * toNatLE rest

def ofNatLE : Nat → Nat → Bytes
  | 0, _ => []
  | width + 1, value => UInt8.ofNat value :: ofNatLE width (value / 256)

def toNatBE (data : Bytes) : Nat := toNatLE data.reverse

def ofNatBE (width value : Nat) : Bytes := (ofNatLE width value).reverse

def slice (data : Bytes) (offset length : Nat) : Bytes := (data.drop offset).take length

def word16 (data : Bytes) (offset : Nat) : UInt16 := .ofNat (toNatLE (slice data offset 2))

def word32 (data : Bytes) (offset : Nat) : UInt32 := .ofNat (toNatLE (slice data offset 4))

def word64 (data : Bytes) (offset : Nat) : UInt64 := .ofNat (toNatLE (slice data offset 8))

def byteAt (data : Bytes) (offset : Nat) : UInt8 := data.getD offset 0

/-- Exactly `width` bytes: what is missing is zero, what is too much is cut off. -/
def fit (width : Nat) (data : Bytes) : Bytes :=
  data.take width ++ List.replicate (width - data.length) 0

def untilZero (data : Bytes) : Bytes := data.takeWhile (· ≠ 0)

def xor (left right : Bytes) : Bytes := List.zipWith (· ^^^ ·) left right

@[simp] theorem length_ofNatLE (width value : Nat) : (ofNatLE width value).length = width := by
  induction width generalizing value with
  | zero => rfl
  | succ width ih => simp [ofNatLE, ih]

@[simp] theorem length_fit (width : Nat) (data : Bytes) : (fit width data).length = width := by
  simp [fit]; omega

end Bytes

end GuestStorage
