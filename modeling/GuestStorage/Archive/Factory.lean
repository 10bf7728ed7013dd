import GuestStorage.Archive.Basic
import GuestStorage.Archive.Layout
import GuestStorage.Guest.FormatInfo

/-!
# Archive factories

A factory opens and formats the instances of one kind of archive. The factory of titles' save data
ignores the path of the guest and serves the title that runs; which one that is stands in a slot, so that
several holders of one factory agree about it.
-/

namespace GuestStorage

abbrev Titles := List UInt64

def Titles.get (titles : Titles) (slot : Nat) : UInt64 := titles.getD slot 0

inductive Factory
  | sdCard (directory : HostPath) (enabled : Bool)
  | sdCardWriteOnly (directory : HostPath)
  | extSaveData (container : HostPath) (shared : Bool)
  | systemSaveData (container : HostPath)
  | saveData (container : HostPath) (slot : Nat)
  | romFs (image : RomFsImage)
  deriving DecidableEq, Repr

namespace Factory

def name : Factory → String
  | sdCard .. => "SDMC"
  | sdCardWriteOnly _ => "SDMCWriteOnly"
  | extSaveData .. => "ExtSaveData"
  | systemSaveData _ => "SystemSaveData"
  | saveData .. => "SaveData"
  | romFs _ => "RomFS"

def initialise (factory : Factory) (host : Host) : Host × Bool :=
  match factory with
  | sdCard directory enabled =>
    if enabled then
      let (host, made) := host.createDirectories directory
      (host, made.isOk)
    else (host, false)
  | extSaveData container _ =>
    let (host, made) := host.createDirectories container
    (host, made.isOk)
  | sdCardWriteOnly _ | systemSaveData _ | saveData .. | romFs _ => (host, true)

def openArchive (factory : Factory) (titles : Titles) (host : Host) (path : GuestPath) :
    Except ResultCode Archive :=
  match factory with
  | sdCard directory _ => .ok (.mounted ⟨.sdCard, directory⟩)
  | sdCardWriteOnly directory => .ok (.mounted ⟨.sdCardWriteOnly, directory⟩)
  | extSaveData container shared =>
    let mountPoint := (Layout.extInstance container path).child "user"
    if host.hasEntry mountPoint then .ok (.mounted ⟨.extSaveData, mountPoint⟩)
    else .error (if shared then .notFormatted else .notFoundInvalidState)
  | systemSaveData container =>
    let mountPoint := Layout.systemInstance container path
    if host.hasEntry mountPoint then .ok (.mounted ⟨.saveData, mountPoint⟩)
    else .error .notFormatted
  | saveData container slot =>
    let mountPoint := Layout.titleInstance container (titles.get slot)
    if host.isDirectory mountPoint then .ok (.mounted ⟨.saveData, mountPoint⟩)
    else .error .notFormatted
  | romFs image => .ok (.image image)

def store (host : Host) (path : HostPath) (data : Bytes) : Host × Except ResultCode Unit :=
  Mount.settle host .unknown (host.writeFile path data)

def recreate (host : Host) (path : HostPath) : Host × Except ResultCode Unit :=
  let cleared := if host.hasEntry path then (host.removeDirectoryTree path).1 else host
  match cleared.createDirectories path with
  | (host, .error _) => (host, .error .unknown)
  | (host, .ok ()) => (host, .ok ())

/-- Wiping the SD card is never done, though it is not refused. Extended save data keeps what it holds. -/
def format (factory : Factory) (titles : Titles) (host : Host) (path : GuestPath)
    (info : FormatInfo) : Host × Except ResultCode Unit :=
  match factory with
  | sdCard .. => (host, .ok ())
  | sdCardWriteOnly _ | romFs _ => (host, .error .unsupportedOperation)
  | extSaveData container _ =>
    let base := Layout.extInstance container path
    let (host, _) := host.createDirectories (base.child "user")
    let (host, _) := host.createDirectories (base.child "boss")
    store host (base.child "metadata") info.toBytes
  | systemSaveData container => recreate host (Layout.systemInstance container path)
  | saveData container slot =>
    match recreate host (Layout.titleInstance container (titles.get slot)) with
    | (host, .error code) => (host, .error code)
    | (host, .ok ()) => store host (Layout.titleMetadata container (titles.get slot)) info.toBytes

def storedInfo (host : Host) (path : HostPath) : Except ResultCode FormatInfo :=
  match host.readFile path with
  | .error _ => .error .notFormatted
  | .ok dump => .ok (.ofBytes dump)

/-- Only extended save data and titles' save data remember how they were formatted. -/
def formatInfo (factory : Factory) (titles : Titles) (host : Host) (path : GuestPath) :
    Except ResultCode FormatInfo :=
  match factory with
  | extSaveData container _ =>
    storedInfo host ((Layout.extInstance container path).child "metadata")
  | saveData container slot =>
    storedInfo host (Layout.titleMetadata container (titles.get slot))
  | sdCard .. | sdCardWriteOnly _ | systemSaveData _ | romFs _ => .error .unknown

def writeIcon (container : HostPath) (host : Host) (path : GuestPath) (icon : Bytes) :
    Host × Except ResultCode Unit :=
  store host ((Layout.extInstance container path).child "icon") icon

end Factory

end GuestStorage
