import GuestStorage.Cipher.CounterMode
import GuestStorage.Container.Error

namespace GuestStorage

structure RegionCounters where
  extendedHeader : Counter
  exeFs : Counter
  romFs : Counter
  deriving DecidableEq, Repr

namespace RegionCounters

def tagged (partitionId : Bytes) (tag : UInt8) : Counter :=
  .ofBytes ((Bytes.fit 8 partitionId).reverse ++ [tag])

def located (partitionId : Bytes) (offset : UInt32) : Counter :=
  .ofBytes (Bytes.fit 8 partitionId ++ [0, 0, 0, 0] ++ Bytes.ofNatBE 4 offset.toNat)

/-- The extended header always stands right behind the header. -/
def extendedHeaderOffset : UInt32 := 0x200

def derive (version : UInt16) (partitionId : Bytes) (exeFsOffset romFsOffset : UInt32) :
    Except LoaderError RegionCounters :=
  if version = 0 ∨ version = 2 then
    .ok ⟨tagged partitionId 1, tagged partitionId 2, tagged partitionId 3⟩
  else if version = 1 then
    .ok ⟨located partitionId extendedHeaderOffset, located partitionId exeFsOffset,
      located partitionId romFsOffset⟩
  else .error (.invalidFormat (.unknownVersion version))

end RegionCounters

end GuestStorage
