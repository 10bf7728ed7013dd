import GuestStorage.Container.Header

namespace GuestStorage

/-- Where a segment goes in guest memory; its room is counted in pages. -/
structure SegmentInfo where
  address : UInt32
  pages : UInt32
  size : UInt32
  deriving DecidableEq, Repr

structure ExtendedHeader where
  name : Bytes
  flag : UInt8
  text : SegmentInfo
  stackSize : UInt32
  readOnly : SegmentInfo
  data : SegmentInfo
  bssSize : UInt32
  programId : UInt64
  coreVersion : UInt32
  idealProcessor : UInt8
  priority : UInt8
  resourceLimitCategory : UInt8
  kernelCapabilities : List UInt32
  deriving DecidableEq, Repr

namespace ExtendedHeader

def size : Nat := 0x800

def segmentAt (data : Bytes) (offset : Nat) : SegmentInfo :=
  ⟨Bytes.word32 data offset, Bytes.word32 data (offset + 4), Bytes.word32 data (offset + 8)⟩

def ofBytes (data : Bytes) : ExtendedHeader :=
  let data := Bytes.fit size data
  { name := Bytes.slice data 0 8
    flag := Bytes.byteAt data 0x0D
    text := segmentAt data 0x10
    stackSize := Bytes.word32 data 0x1C
    readOnly := segmentAt data 0x20
    data := segmentAt data 0x30
    bssSize := Bytes.word32 data 0x3C
    programId := Bytes.word64 data 0x200
    coreVersion := Bytes.word32 data 0x208
    idealProcessor := Bytes.byteAt data 0x20E &&& 3
    priority := Bytes.byteAt data 0x20F
    resourceLimitCategory := Bytes.byteAt data 0x36F
    kernelCapabilities := (List.range 28).map fun index => Bytes.word32 data (0x370 + 4 * index) }

def processName (header : ExtendedHeader) : String := fieldText header.name

def isCompressed (header : ExtendedHeader) : Bool := header.flag &&& 1 = 1

def entryPoint (header : ExtendedHeader) : UInt32 := header.text.address

def codeSize (header : ExtendedHeader) : UInt32 := header.text.size

end ExtendedHeader

end GuestStorage
