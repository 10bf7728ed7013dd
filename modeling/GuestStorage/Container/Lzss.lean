import GuestStorage.Bytes
import GuestStorage.Container.Error

/-!
# Backward compression

A compressed buffer is expanded from its end towards its start. Its last eight bytes are a footer: how
far the stream reaches down, how much of the end it leaves out, and by how much the output grows.

The stream is read from high addresses to low ones. A control byte says of each of the eight tokens after
it, highest bit first, whether it is a literal byte or a back-reference. A token adds bytes in front of
what is already built, so the output under construction is kept with its last byte first.
-/

namespace GuestStorage.Lzss

def footerSize : Nat := 8

/-- No stream makes its buffer grow by more than eight bytes a byte. -/
def maxGrowth : Nat := 8

def growth (buffer : Bytes) : Nat := (Bytes.word32 buffer (buffer.length - 4)).toNat

def decompressedSize (buffer : Bytes) : Except DecompressionFault Nat :=
  let size := buffer.length
  if size < footerSize then .error (.noFooter size)
  else if size * maxGrowth < growth buffer then .error (.growthTooLarge (growth buffer) size)
  else .ok (size + growth buffer)

/-- Adds `count` times the byte that stands `distance` bytes behind the front of the output; none where
the output does not reach that far. -/
def copyBack (distance : Nat) : Nat → Array UInt8 → Option (Array UInt8)
  | 0, built => some built
  | count + 1, built =>
    if h : distance < built.size then
      copyBack distance count (built.push built[built.size - 1 - distance])
    else none

/-- Reads the stream. `left` bytes of it are not read yet, `bits` tokens of the current group remain,
and their marks stand in the high bits of `control`. Once the output is full, what is left of the stream
is passed over as control bytes. -/
def expand (total : Nat) (left bits : Nat) (control : UInt8) (source : Bytes) (built : Array UInt8) :
    Except DecompressionFault (Array UInt8) :=
  match left, bits, source with
  | 0, _, _ => .ok built
  | _, _, [] => .ok built
  | left + 1, 0, next :: rest => expand total left 8 next rest built
  | left + 1, bits + 1, byte :: rest =>
    if total ≤ built.size then expand total left 8 byte rest built
    else if control < 0x80 then expand total left bits (control <<< 1) rest (built.push byte)
    else
      match rest with
      | [] => .error .segmentHeader
      | low :: rest =>
        let word := low.toNat + 256 * byte.toNat
        let count := word / 4096 + 3
        if total < built.size + count then .error .segmentSize
        else
          match copyBack (word % 4096 + 2) count built with
          | none => .error .segmentOffset
          | some built => expand total (left - 1) bits (control <<< 1) rest built
termination_by structural source

def streamBounds (buffer : Bytes) : Nat × Nat :=
  let word := (Bytes.word32 buffer (buffer.length - footerSize)).toNat
  (word / 0x1000000, word % 0x1000000)

/-- What the stream does not build is taken from the buffer itself, followed by zeros. -/
def decompress (buffer : Bytes) : Except DecompressionFault Bytes :=
  match decompressedSize buffer with
  | .error fault => .error fault
  | .ok total =>
    let size := buffer.length
    let (top, bottom) := streamBounds buffer
    if size < top ∨ size < bottom then .error (.rangesTooLarge top bottom size)
    else
      match expand total (bottom - top) 0 0 (buffer.take (size - top)).reverse #[] with
      | .error fault => .error fault
      | .ok built => .ok ((Bytes.fit total buffer).take (total - built.size) ++ built.toList.reverse)

end GuestStorage.Lzss
