import GuestStorage.Container.Error
import GuestStorage.Container.ExtendedHeader

namespace GuestStorage

structure ProgramSegment where
  offset : UInt32
  address : UInt32
  size : UInt32
  deriving DecidableEq, Repr

structure ProgramImage where
  name : String
  programId : UInt64
  code : ProgramSegment
  readOnly : ProgramSegment
  data : ProgramSegment
  entryPoint : UInt32
  memory : Bytes
  stackSize : UInt32
  priority : UInt8
  idealProcessor : UInt8
  resourceLimitCategory : UInt8
  kernelCapabilities : List UInt32
  coreVersion : UInt32
  deriving DecidableEq, Repr

namespace ProgramImage

def pageSize : Nat := 0x1000

def segmentSize (pages : UInt32) : Except FormatFault UInt32 :=
  if pages.toNat * pageSize < UInt32.size then .ok (.ofNat (pages.toNat * pageSize))
  else .error (.segmentTooLarge pages)

/-- The zeros behind the data segment fill whole pages. -/
def bssRoom (size : UInt32) : Except FormatFault UInt32 :=
  if size.toNat + (pageSize - 1) < UInt32.size then
    .ok (.ofNat ((size.toNat + (pageSize - 1)) / pageSize * pageSize))
  else .error .bssTooLarge

def dataSize (size room : UInt32) : Except FormatFault UInt32 :=
  if size.toNat + room.toNat < UInt32.size then .ok (size + room) else .error .dataTooLarge

def ofCode (header : ExtendedHeader) (programId : UInt64) (code : Bytes) :
    Except FormatFault ProgramImage := do
  let textSize ← segmentSize header.text.pages
  let readOnlySize ← segmentSize header.readOnly.pages
  let room ← bssRoom header.bssSize
  let ownSize ← segmentSize header.data.pages
  let wholeSize ← dataSize ownSize room
  return {
    name := header.processName
    programId
    code := ⟨0, header.text.address, textSize⟩
    readOnly := ⟨textSize, header.readOnly.address, readOnlySize⟩
    data := ⟨textSize + readOnlySize, header.data.address, wholeSize⟩
    entryPoint := header.text.address
    memory := code ++ List.replicate room.toNat 0
    stackSize := header.stackSize
    priority := header.priority
    idealProcessor := header.idealProcessor
    resourceLimitCategory := header.resourceLimitCategory
    kernelCapabilities := header.kernelCapabilities
    coreVersion := header.coreVersion }

end ProgramImage

end GuestStorage
