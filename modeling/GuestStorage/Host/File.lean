import GuestStorage.Host.Change

namespace GuestStorage

structure OpenFile where
  entry : Entry
  writable : Bool
  deriving DecidableEq, Repr

/-- What an open file gives access to at one moment. -/
inductive Medium
  | directory
  | regular (contents : Contents)
  deriving DecidableEq, Repr

namespace Medium

/-- Positions and sizes are below 2⁶³. -/
def limit : Nat := 0x8000000000000000

def ofBytes (data : Bytes) : Medium := regular (.ofBytes data)

def directorySize : Nat := 4096

def size : Medium → Nat
  | directory => directorySize
  | regular contents => contents.size

def readAt (medium : Medium) (offset length : Nat) : Except HostError Bytes :=
  if limit ≤ offset then .error .invalidArgument
  else
    match medium with
    | directory => if length = 0 then .ok [] else .error .isADirectory
    | regular contents => .ok (contents.read offset length)

def readExact (medium : Medium) (offset length : Nat) : Except HostError Bytes :=
  match medium.readAt offset length with
  | .error cause => .error cause
  | .ok data => if data.length < length then .error .endOfFile else .ok data

end Medium

namespace Host

def openFile (host : Host) (path : HostPath) (writable : Bool) : Except HostError OpenFile :=
  match host.lookup path with
  | .error cause => .error cause
  | .ok (_, entry) =>
    if writable && entry.isDirectory then .error .isADirectory else .ok ⟨entry, writable⟩

def medium (host : Host) (file : OpenFile) : Medium :=
  match file.entry with
  | .directory => .directory
  | .file id => .regular (host.contents id)

def sizeOf (host : Host) : Entry → Nat
  | .directory => 0
  | .file id => (host.contents id).size

def writeAt (host : Host) (file : OpenFile) (offset : Nat) (data : Bytes) : Except HostError Host :=
  if Medium.limit ≤ offset then .error .invalidArgument
  else if data = [] then .ok host
  else
    match file.writable, file.entry with
    | true, .file id =>
      if Medium.limit ≤ offset + data.length then .error .fileTooLarge
      else .ok (host.setContents id ((host.contents id).write offset data))
    | _, _ => .error .badHandle

def setSize (host : Host) (file : OpenFile) (size : Nat) : Except HostError Host :=
  match file.writable, file.entry with
  | true, .file id =>
    if Medium.limit ≤ size then .error .invalidArgument
    else .ok (host.setContents id ((host.contents id).resize size))
  | _, _ => .error .invalidArgument

def readFile (host : Host) (path : HostPath) : Except HostError Bytes :=
  match host.lookup path with
  | .error cause => .error cause
  | .ok (_, .directory) => .error .isADirectory
  | .ok (_, .file id) => .ok (host.contents id).toBytes

def writeFile (host : Host) (path : HostPath) (data : Bytes) : Except HostError Host :=
  match host.createFile path with
  | .error cause => .error cause
  | .ok (host, id) => .ok (host.setContents id (.ofBytes data))

end Host

end GuestStorage
