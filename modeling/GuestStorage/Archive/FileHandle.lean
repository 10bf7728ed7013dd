import GuestStorage.Container.RomFsImage
import GuestStorage.Guest.OpenMode
import GuestStorage.Host.File
import GuestStorage.ResultCode.Catalogue

namespace GuestStorage

/-- A buffer after bytes were read into it, and their number. They take its front; the rest of it, or
all of it after a failure, stays as it was. -/
def received {ε : Type} (buffer : Bytes) : Except ε Bytes → Bytes × Except ε Nat
  | .error cause => (buffer, .error cause)
  | .ok data => (data ++ buffer.drop data.length, .ok data.length)

structure DiskFile where
  file : Option OpenFile
  mode : OpenMode
  deriving DecidableEq, Repr

namespace DiskFile

def read (self : DiskFile) (host : Host) (offset : UInt64) (length : Nat) :
    Except ResultCode Bytes :=
  if !self.mode.read && !self.mode.write then .error .invalidOpenFlags
  else
    match self.file with
    | none => .error .operationCanceled
    | some file =>
      match (host.medium file).readAt offset.toNat length with
      | .error _ => .error .operationCanceled
      | .ok data => .ok data

def write (self : DiskFile) (host : Host) (offset : UInt64) (data : Bytes) :
    Except ResultCode (Host × Nat) :=
  if !self.mode.write then .error .invalidOpenFlags
  else
    match self.file with
    | none => .error .operationCanceled
    | some file =>
      match host.writeAt file offset.toNat data with
      | .error _ => .error .operationCanceled
      | .ok host => .ok (host, data.length)

def size (self : DiskFile) (host : Host) : Nat :=
  match self.file with
  | none => 0
  | some file => (host.medium file).size

def setSize (self : DiskFile) (host : Host) (size : UInt64) : Option Host :=
  match self.file with
  | none => none
  | some file => (host.setSize file size.toNat).toOption

end DiskFile

structure FixedSizeFile where
  inner : DiskFile
  size : Nat
  deriving DecidableEq, Repr

namespace FixedSizeFile

def ofDiskFile (inner : DiskFile) (host : Host) : FixedSizeFile := ⟨inner, inner.size host⟩

/-- What would go past the end is not written; nothing is written at the end itself. -/
def write (self : FixedSizeFile) (host : Host) (offset : UInt64) (data : Bytes) :
    Except ResultCode (Host × Nat) :=
  if self.size < offset.toNat then .error .writeBeyondEnd
  else if offset.toNat = self.size then .ok (host, 0)
  else self.inner.write host offset (data.take (self.size - offset.toNat))

end FixedSizeFile

structure BlockCache where
  index : Option Nat
  data : Bytes
  deriving DecidableEq, Repr

namespace BlockCache

def empty : BlockCache := ⟨none, Bytes.fit CounterContext.blockSize []⟩

/-- Gets a block of an image, from the host unless it is the one that is kept. What the host does not
have of it counts as zero before decryption. -/
def load (cache : BlockCache) (medium : Medium) (image : RomFsImage) (block : Nat) :
    BlockCache × Except HostError Bytes :=
  if cache.index = some block then (cache, .ok cache.data)
  else
    let position := image.offset + .ofNat (block * CounterContext.blockSize)
    match medium.readAt position.toNat CounterContext.blockSize with
    | .error cause => ({ cache with data := empty.data }, .error cause)
    | .ok raw =>
      let data := Bytes.xor (Bytes.fit CounterContext.blockSize raw)
        (image.context.keystreamBlock block)
      (⟨some block, data⟩, .ok data)

/-- Fills a buffer with the bytes of an image from `position` on, block by block. Where the host refuses
a block, the rest of the buffer stays as it is. -/
def fill (cache : BlockCache) (medium : Medium) (image : RomFsImage) (position : Nat)
    (buffer : Bytes) : BlockCache × Bytes × Except HostError Unit :=
  if buffer = [] then (cache, [], .ok ())
  else
    match cache.load medium image (position / CounterContext.blockSize) with
    | (cache, .error cause) => (cache, buffer, .error cause)
    | (cache, .ok data) =>
      let within := position % CounterContext.blockSize
      let count := (buffer.take (CounterContext.blockSize - within)).length
      let (cache, rest, result) := cache.fill medium image (position + count) (buffer.drop count)
      (cache, Bytes.slice data within count ++ rest, result)
termination_by buffer.length
decreasing_by
  rename_i nonempty
  have := List.length_pos_iff.mpr nonempty
  simp only [CounterContext.blockSize, List.length_drop, List.length_take]
  omega

end BlockCache

structure ImageFile where
  file : Option OpenFile
  image : RomFsImage
  cache : BlockCache
  deriving DecidableEq, Repr

namespace ImageFile

def ofImage (file : OpenFile) (image : RomFsImage) : ImageFile := ⟨some file, image, .empty⟩

def readRange (self : ImageFile) (medium : Medium) (offset : Nat) (buffer : Bytes) :
    ImageFile × Bytes × Except HostError Nat :=
  if self.image.context.encrypted then
    let (cache, filled, result) := self.cache.fill medium self.image offset buffer
    ({ self with cache }, filled, result.map fun () => buffer.length)
  else
    let answer := medium.readAt (self.image.offset + .ofNat offset).toNat buffer.length
    (self, received buffer answer)

def read (self : ImageFile) (host : Host) (offset : UInt64) (buffer : Bytes) :
    ImageFile × Bytes × Except ResultCode Nat :=
  match self.file with
  | none => (self, buffer, .ok 0)
  | some file =>
    let available := self.image.size.toNat - offset.toNat
    if available = 0 then (self, buffer, .ok 0)
    else
      let (next, front, result) :=
        self.readRange (host.medium file) offset.toNat (buffer.take available)
      (next, front ++ buffer.drop available, result.mapError fun _ => .operationCanceled)

end ImageFile

inductive FileHandle
  | disk (file : DiskFile)
  | fixedSize (file : FixedSizeFile)
  | image (file : ImageFile)
  deriving DecidableEq, Repr

namespace FileHandle

def read (handle : FileHandle) (host : Host) (offset : UInt64) (buffer : Bytes) :
    FileHandle × Bytes × Except ResultCode Nat :=
  match handle with
  | disk file => (handle, received buffer (file.read host offset buffer.length))
  | fixedSize file => (handle, received buffer (file.inner.read host offset buffer.length))
  | image file =>
    let (file, buffer, result) := file.read host offset buffer
    (image file, buffer, result)

def write (handle : FileHandle) (host : Host) (offset : UInt64) (data : Bytes) :
    Except ResultCode (Host × Nat) :=
  match handle with
  | disk file => file.write host offset data
  | fixedSize file => file.write host offset data
  | image _ => .ok (host, 0)

def size (handle : FileHandle) (host : Host) : Nat :=
  match handle with
  | disk file => file.size host
  | fixedSize file => file.inner.size host
  | image file => file.image.size.toNat

def setSize (handle : FileHandle) (host : Host) (size : UInt64) : Option Host :=
  match handle with
  | disk file => file.setSize host size
  | fixedSize _ | image _ => none

def flush (_ : FileHandle) (host : Host) : Host := host

def close : FileHandle → FileHandle × Bool
  | disk file => (disk { file with file := none }, file.file.isSome)
  | fixedSize file =>
    (fixedSize { file with inner := { file.inner with file := none } }, file.inner.file.isSome)
  | image file => (image { file with file := none, cache := .empty }, file.file.isSome)

end FileHandle

end GuestStorage
