import GuestStorage.Container.Header

namespace GuestStorage

structure Section where
  name : Bytes
  offset : UInt32
  size : UInt32
  deriving DecidableEq, Repr

abbrev SectionTable := List Section

namespace SectionTable

def size : Nat := 0x200

def slots : Nat := 8

def sectionAt (data : Bytes) (offset : Nat) : Section :=
  ⟨Bytes.untilZero (Bytes.slice data offset 8), Bytes.word32 data (offset + 8),
    Bytes.word32 data (offset + 12)⟩

def ofBytes (data : Bytes) : SectionTable :=
  let data := Bytes.fit size data
  (List.range slots).map fun slot => sectionAt data (16 * slot)

def zero : SectionTable := ofBytes []

def find? (table : SectionTable) (name : String) : Option Section :=
  List.find? (fun entry => entry.name = Utf8.encode name) table

end SectionTable

end GuestStorage
