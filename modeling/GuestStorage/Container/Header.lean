import GuestStorage.Bytes
import GuestStorage.Text.Utf8

namespace GuestStorage

def mediaUnit : Nat := 0x200

def fieldText (field : Bytes) : String := Utf8.decode (Bytes.untilZero field)

structure Region where
  offset : UInt32
  size : UInt32
  deriving DecidableEq, Repr

structure ContainerHeader where
  keyY : Bytes
  magic : Bytes
  contentSize : UInt32
  partitionId : Bytes
  makerCode : UInt16
  version : UInt16
  programId : UInt64
  logoRegionHash : Bytes
  productCode : String
  extendedHeaderHash : Bytes
  extendedHeaderSize : UInt32
  flags : Bytes
  plainRegion : Region
  logoRegion : Region
  exeFs : Region
  exeFsHashRegionSize : UInt32
  romFs : Region
  romFsHashRegionSize : UInt32
  exeFsSuperBlockHash : Bytes
  romFsSuperBlockHash : Bytes
  deriving DecidableEq, Repr

namespace ContainerHeader

def size : Nat := 0x200

def regionAt (data : Bytes) (offset : Nat) : Region :=
  ⟨Bytes.word32 data offset, Bytes.word32 data (offset + 4)⟩

def ofBytes (data : Bytes) : ContainerHeader :=
  let data := Bytes.fit size data
  { keyY := Bytes.slice data 0 16
    magic := Bytes.slice data 0x100 4
    contentSize := Bytes.word32 data 0x104
    partitionId := Bytes.slice data 0x108 8
    makerCode := Bytes.word16 data 0x110
    version := Bytes.word16 data 0x112
    programId := Bytes.word64 data 0x118
    logoRegionHash := Bytes.slice data 0x130 0x20
    productCode := fieldText (Bytes.slice data 0x150 0x10)
    extendedHeaderHash := Bytes.slice data 0x160 0x20
    extendedHeaderSize := Bytes.word32 data 0x180
    flags := Bytes.slice data 0x188 8
    plainRegion := regionAt data 0x190
    logoRegion := regionAt data 0x198
    exeFs := regionAt data 0x1A0
    exeFsHashRegionSize := Bytes.word32 data 0x1A8
    romFs := regionAt data 0x1B0
    romFsHashRegionSize := Bytes.word32 data 0x1B8
    exeFsSuperBlockHash := Bytes.slice data 0x1C0 0x20
    romFsSuperBlockHash := Bytes.slice data 0x1E0 0x20 }

def zero : ContainerHeader := ofBytes []

/-- `NCSD`, which marks a card image whose first partition is the container. -/
def cardMagic : Bytes := [0x4E, 0x43, 0x53, 0x44]

def containerMagic : Bytes := [0x4E, 0x43, 0x43, 0x48]

def exeFsOffset (header : ContainerHeader) : Nat := header.exeFs.offset.toNat * mediaUnit

/-- Flag 3 chooses the newer key for code and RomFS. -/
def usesSecondKey (header : ContainerHeader) : Bool := Bytes.byteAt header.flags 3 ≠ 0

/-- Flag 7 announces a scheme that the loader only reports. -/
def announcesThirdKey (header : ContainerHeader) : Bool := Bytes.byteAt header.flags 7 = 0x20

end ContainerHeader

end GuestStorage
