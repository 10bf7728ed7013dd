import GuestStorage.Cipher.RegionCounters
import GuestStorage.Container.Lzss
import GuestStorage.Container.ProgramImage
import GuestStorage.Container.RomFsImage
import GuestStorage.Container.SectionTable
import GuestStorage.Host.File

/-!
# The loader

A loader reads the headers of a container once, and from then on its sections, its RomFS and its program.
Each call looks at the file as it is at that moment. A header that cannot be read leaves the loader in its
error state, and the next call starts again; what was read before the failure stays visible.

An encrypted container shows by a program identifier that its two headers do not agree on. It is decrypted
with the keys that a provider makes from the container's own half of the key.
-/

namespace GuestStorage

inductive ContainerKind
  | card
  | executable
  | unknown
  deriving DecidableEq, Repr

def ContainerKind.name : ContainerKind → String
  | card => "Cci"
  | executable => "Cxi"
  | unknown => "Error"

inductive KeySlot
  | first
  | second
  deriving DecidableEq, Repr

/-- Makes a key from a slot and the container's own half. -/
abbrev KeyProvider := KeySlot → Bytes → Aes.Block

def KeyProvider.zero : KeyProvider := fun _ _ => .zero

structure ContainerCrypto where
  keyY : Bytes
  usesSecondKey : Bool
  announcesThirdKey : Bool
  counters : RegionCounters
  deriving DecidableEq, Repr

inductive LoaderState
  | notLoaded
  | headersLoaded
  | loaded
  | error
  deriving DecidableEq, Repr

def LoaderState.name : LoaderState → String
  | notLoaded => "NotLoaded"
  | headersLoaded => "ExeFsHeaderLoaded"
  | loaded => "Loaded"
  | error => "Error"

structure Loader where
  file : OpenFile
  path : HostPath
  keys : KeyProvider
  state : LoaderState
  containerOffset : Nat
  exeFsOffset : Nat
  header : ContainerHeader
  extendedHeader : Option ExtendedHeader
  sections : SectionTable
  crypto : Option ContainerCrypto

def firstPartition : Nat := 0x4000

/-- The bytes in front of a RomFS that are not part of its image. -/
def romFsHeaderSize : Nat := 0x1000

def Medium.containerKind (medium : Medium) : ContainerKind :=
  match medium.readExact 0x100 4 with
  | .error _ => .unknown
  | .ok magic =>
    if magic = ContainerHeader.cardMagic then .card
    else if magic = ContainerHeader.containerMagic then .executable
    else .unknown

namespace Loader

def ofFile (file : OpenFile) (path : HostPath) (keys : KeyProvider) : Loader :=
  { file
    path
    keys
    state := .notLoaded
    containerOffset := 0
    exeFsOffset := 0
    header := .zero
    extendedHeader := none
    sections := .zero
    crypto := none }

def openPath (host : Host) (path : HostPath) (keys : KeyProvider) : Except LoaderError Loader :=
  match host.openFile path false with
  | .error cause => .error (.io cause)
  | .ok file => .ok (ofFile file path keys)

def headersLoaded (loader : Loader) : Bool :=
  loader.state = .headersLoaded || loader.state = .loaded

def programId (loader : Loader) : UInt64 := loader.header.programId

def isEncrypted (loader : Loader) : Bool := loader.crypto.isSome

/-! ## Headers -/

def readHeader (loader : Loader) (medium : Medium) : Loader × Except LoaderError Unit :=
  match medium.readExact 0 ContainerHeader.size with
  | .error cause => (loader, .error (.io cause))
  | .ok data =>
    let loader := { loader with header := .ofBytes data }
    if loader.header.magic ≠ ContainerHeader.cardMagic then (loader, .ok ())
    else
      let loader := { loader with containerOffset := firstPartition }
      match medium.readExact firstPartition ContainerHeader.size with
      | .error cause => (loader, .error (.io cause))
      | .ok data => ({ loader with header := .ofBytes data }, .ok ())

def cryptoOf (header : ContainerHeader) : Except LoaderError ContainerCrypto :=
  let units : UInt32 := .ofNat mediaUnit
  match RegionCounters.derive header.version header.partitionId (header.exeFs.offset * units)
      (header.romFs.offset * units) with
  | .error cause => .error cause
  | .ok counters =>
    .ok ⟨header.keyY, header.usesSecondKey, header.announcesThirdKey, counters⟩

def regionContext (loader : Loader) (crypto : ContainerCrypto) (slot : KeySlot)
    (counter : Counter) : CounterContext :=
  .ofKey (loader.keys slot crypto.keyY) counter

/-- Decrypts the extended header if its program identifier is not that of the header. -/
def readExtendedHeader (loader : Loader) (medium : Medium) :
    Loader × Except LoaderError ExtendedHeader :=
  if loader.header.magic ≠ ContainerHeader.containerMagic then
    (loader, .error (.invalidFormat (.badMagic loader.header.magic)))
  else
    match medium.readExact (loader.containerOffset + ContainerHeader.size) ExtendedHeader.size with
    | .error cause => (loader, .error (.io cause))
    | .ok data =>
      let plain := ExtendedHeader.ofBytes data
      if plain.programId = loader.programId then (loader, .ok plain)
      else
        match cryptoOf loader.header with
        | .error cause => (loader, .error cause)
        | .ok crypto =>
          let context := loader.regionContext crypto .first crypto.counters.extendedHeader
          let decrypted := ExtendedHeader.ofBytes (context.applyKeystream 0 data)
          if decrypted.programId = loader.programId then
            ({ loader with crypto := some crypto }, .ok decrypted)
          else (loader, .error .encrypted)

def decryptExeFs (loader : Loader) (slot : KeySlot) (offset : Nat) (data : Bytes) : Bytes :=
  match loader.crypto with
  | none => data
  | some crypto =>
    (loader.regionContext crypto slot crypto.counters.exeFs).applyKeystream offset data

def readSections (loader : Loader) (medium : Medium) : Loader × Except LoaderError Unit :=
  let loader := { loader with exeFsOffset := loader.header.exeFsOffset }
  match medium.readExact (loader.containerOffset + loader.exeFsOffset) SectionTable.size with
  | .error cause => (loader, .error (.io cause))
  | .ok data =>
    ({ loader with sections := .ofBytes (loader.decryptExeFs .first 0 data) }, .ok ())

def readHeaders (loader : Loader) (medium : Medium) : Loader × Except LoaderError Unit :=
  match loader.readHeader medium with
  | (loader, .error cause) => (loader, .error cause)
  | (loader, .ok ()) =>
    match loader.readExtendedHeader medium with
    | (loader, .error cause) => (loader, .error cause)
    | (loader, .ok extendedHeader) =>
      match loader.readSections medium with
      | (loader, .error cause) => (loader, .error cause)
      | (loader, .ok ()) => ({ loader with extendedHeader := some extendedHeader }, .ok ())

def reset (loader : Loader) : Loader :=
  { loader with containerOffset := 0, exeFsOffset := 0, extendedHeader := none, crypto := none }

def loadHeaders (loader : Loader) (medium : Medium) : Loader × Except LoaderError Unit :=
  if loader.headersLoaded then (loader, .ok ())
  else
    match loader.reset.readHeaders medium with
    | (loader, .error cause) => ({ loader with state := .error }, .error cause)
    | (loader, .ok ()) => ({ loader with state := .headersLoaded }, .ok ())

def afterHeaders {α : Type} (loader : Loader) (medium : Medium)
    (ask : Loader → Except LoaderError α) : Loader × Except LoaderError α :=
  match loader.loadHeaders medium with
  | (loader, .error cause) => (loader, .error cause)
  | (loader, .ok ()) => (loader, ask loader)

/-! ## Sections -/

def codeName : String := ".code"

/-- Only the code uses the second key. -/
def sectionSlot (loader : Loader) (name : String) : KeySlot :=
  if loader.crypto.any (·.usesSecondKey) ∧ name = codeName then .second else .first

def isCompressed (loader : Loader) : Bool := loader.extendedHeader.any (·.isCompressed)

def storedSection (loader : Loader) (medium : Medium) (name : String) (entry : Section) :
    Except LoaderError Bytes :=
  let relative := entry.offset.toNat + SectionTable.size
  let absolute := loader.containerOffset + loader.exeFsOffset + relative
  if medium.size < absolute + entry.size.toNat then
    .error (.invalidFormat (.sectionPastEnd name))
  else
    match medium.readExact absolute entry.size.toNat with
    | .error cause => .error (.io cause)
    | .ok data => .ok (loader.decryptExeFs (loader.sectionSlot name) relative data)

def sectionNamed (loader : Loader) (medium : Medium) (name : String) :
    Except LoaderError Bytes :=
  match loader.sections.find? name with
  | none => .error (.notUsed name)
  | some entry =>
    match loader.storedSection medium name entry with
    | .error cause => .error cause
    | .ok data =>
      if name = codeName ∧ loader.isCompressed then
        (Lzss.decompress data).mapError .decompression
      else .ok data

def loadSection (loader : Loader) (medium : Medium) (name : String) :
    Loader × Except LoaderError Bytes :=
  loader.afterHeaders medium (·.sectionNamed medium name)

/-! ## RomFS -/

def romFsContext (loader : Loader) : CounterContext :=
  match loader.crypto with
  | none => .plain
  | some crypto =>
    let slot := if crypto.usesSecondKey then .second else .first
    (loader.regionContext crypto slot crypto.counters.romFs).advanced
      (romFsHeaderSize / CounterContext.blockSize)

def romFsImage (loader : Loader) (medium : Medium) : Except LoaderError RomFsImage :=
  let region := loader.header.romFs
  if region.offset = 0 ∨ region.size = 0 then .error (.notUsed "RomFS")
  else if region.size.toNat * mediaUnit < romFsHeaderSize then .error (.invalidFormat .romFsTooSmall)
  else
    let offset := loader.containerOffset + region.offset.toNat * mediaUnit + romFsHeaderSize
    let size := region.size.toNat * mediaUnit - romFsHeaderSize
    if medium.size < offset + size then .error (.invalidFormat .romFsPastEnd)
    else .ok ⟨loader.path, .ofNat offset, .ofNat size, loader.romFsContext⟩

def readRomFs (loader : Loader) (medium : Medium) : Loader × Except LoaderError RomFsImage :=
  loader.afterHeaders medium (·.romFsImage medium)

/-! ## Programs -/

def programImage (loader : Loader) (medium : Medium) : Except LoaderError ProgramImage :=
  match loader.sectionNamed medium codeName with
  | .error cause => .error cause
  | .ok code =>
    match loader.extendedHeader with
    | none => .error .notLoaded
    | some header =>
      (ProgramImage.ofCode header loader.programId code).mapError .invalidFormat

def load (loader : Loader) (medium : Medium) : Loader × Except LoaderError ProgramImage :=
  if loader.state = .loaded then (loader, .error .alreadyLoaded)
  else
    match loader.afterHeaders medium (·.programImage medium) with
    | (loader, .error cause) => (loader, .error cause)
    | (loader, .ok image) => ({ loader with state := .loaded }, .ok image)

end Loader

end GuestStorage
