namespace GuestStorage

structure OpenMode where
  read : Bool
  write : Bool
  create : Bool
  deriving DecidableEq, Repr

namespace OpenMode

def ofBits (bits : UInt32) : OpenMode :=
  ⟨bits &&& 1 ≠ 0, bits &&& 2 ≠ 0, bits &&& 4 ≠ 0⟩

def bits (mode : OpenMode) : UInt32 :=
  mode.read.toUInt32 + 2 * mode.write.toUInt32 + 4 * mode.create.toUInt32

def isEmpty (mode : OpenMode) : Bool := !mode.read && !mode.write && !mode.create

def readOnly : OpenMode := ⟨true, false, false⟩

def readWrite : OpenMode := ⟨true, true, false⟩

end OpenMode

end GuestStorage
