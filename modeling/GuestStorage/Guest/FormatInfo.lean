import GuestStorage.Bytes

namespace GuestStorage

structure FormatInfo where
  totalSize : UInt32
  directories : UInt32
  files : UInt32
  duplicateData : UInt8
  padding : UInt8 × UInt8 × UInt8
  deriving DecidableEq, Repr

namespace FormatInfo

def size : Nat := 16

def toBytes (info : FormatInfo) : Bytes :=
  Bytes.ofNatLE 4 info.totalSize.toNat ++ Bytes.ofNatLE 4 info.directories.toNat ++
    Bytes.ofNatLE 4 info.files.toNat ++
    [info.duplicateData, info.padding.1, info.padding.2.1, info.padding.2.2]

/-- A short dump is read as if zeros followed; what lies beyond 16 bytes is not looked at. -/
def ofBytes (dump : Bytes) : FormatInfo :=
  let dump := Bytes.fit size dump
  { totalSize := Bytes.word32 dump 0
    directories := Bytes.word32 dump 4
    files := Bytes.word32 dump 8
    duplicateData := Bytes.byteAt dump 12
    padding := (Bytes.byteAt dump 13, Bytes.byteAt dump 14, Bytes.byteAt dump 15) }

end FormatInfo

end GuestStorage
