import GuestStorage.Archive.FileHandle
import GuestStorage.Archive.Listing
import GuestStorage.Archive.Refusal

/-!
# Archives

An archive gives a guest a directory of the host, or a RomFS image. The kinds of mounted archive share
their operations: a path is checked, classified, and refused by the table of the kind's family; only then
is the host changed. They differ in the modes they accept and in the files they hand out.

An operation answers the host afterwards beside its result, since a refusal may come after a change.
-/

namespace GuestStorage

inductive MountKind
  | disk
  | sdCard
  | sdCardWriteOnly
  | saveData
  | extSaveData
  deriving DecidableEq, Repr

namespace MountKind

def label : MountKind → String
  | disk => "DiskArchive"
  | sdCard => "SDMCArchive"
  | sdCardWriteOnly => "SDMCWriteOnlyArchive"
  | saveData => "SaveDataArchive"
  | extSaveData => "ExtSaveDataArchive"

def family : MountKind → CodeFamily
  | disk | sdCard | sdCardWriteOnly => .card
  | saveData | extSaveData => .save

def effectiveMode (kind : MountKind) (mode : OpenMode) : OpenMode :=
  if kind = sdCard then { mode with read := true } else mode

/-- A mode asks for something, and creates only what it writes; extended save data is never created by
opening. -/
def accepts (kind : MountKind) (mode : OpenMode) : Bool :=
  !mode.isEmpty && (!mode.create || (mode.write && kind ≠ extSaveData))

end MountKind

structure Mount where
  kind : MountKind
  mountPoint : HostPath
  deriving DecidableEq, Repr

inductive Archive
  | mounted (mount : Mount)
  | image (romFs : RomFsImage)
  deriving DecidableEq, Repr

def freeBytesOnDisk : Nat := 0x40000000

namespace Host

/-- Makes a file of some size by writing its last byte. Where that fails the empty file stays. -/
def allocate (host : Host) (path : HostPath) (size : UInt64) : Host × Except ResultCode Unit :=
  match host.createFile path with
  | .error _ => (host, .error (if size = 0 then .operationCanceled else .tooLarge))
  | .ok (created, id) =>
    if size = 0 then (created, .ok ())
    else
      match created.writeAt ⟨.file id, true⟩ (size.toNat - 1) [0] with
      | .error _ => (created, .error .tooLarge)
      | .ok filled => (filled, .ok ())

end Host

namespace Mount

def name (mount : Mount) : String := mount.kind.label ++ ": " ++ mount.mountPoint.toString

def resolve (mount : Mount) (host : Host) (operation : PathOperation) (path : GuestPath) :
    Except ResultCode HostPath :=
  match path.segments? with
  | none => .error .invalidPath
  | some segments =>
    match mount.kind.family.refusal operation (host.status mount.mountPoint segments) with
    | some code => .error code
    | none => .ok (mount.mountPoint.descendant segments)

def handleAt (mount : Mount) (host : Host) (path : HostPath) (mode : OpenMode) :
    Except ResultCode FileHandle :=
  if mount.kind = .extSaveData then
    match host.openFile path true with
    | .error _ => .error mount.kind.family.vanished
    | .ok file => .ok (.fixedSize (.ofDiskFile ⟨some file, .readWrite⟩ host))
  else
    match host.openFile path mode.write with
    | .error _ => .error mount.kind.family.vanished
    | .ok file => .ok (.disk ⟨some file, mode⟩)

def openWith (mount : Mount) (host : Host) (path : GuestPath) (mode : OpenMode) :
    Host × Except ResultCode FileHandle :=
  if !path.isValid then (host, .error .invalidPath)
  else if !mount.kind.accepts mode then (host, .error mount.kind.family.badMode)
  else
    match mount.resolve host (.openFile mode.create) path with
    | .error code => (host, .error code)
    | .ok target =>
      if host.hasEntry target then (host, mount.handleAt host target mode)
      else
        match host.allocate target 0 with
        | (host, .error code) => (host, .error code)
        | (host, .ok ()) => (host, mount.handleAt host target mode)

def openFile (mount : Mount) (host : Host) (path : GuestPath) (mode : OpenMode) :
    Host × Except ResultCode FileHandle :=
  if mount.kind = .sdCardWriteOnly ∧ mode.read then (host, .error .invalidReadFlag)
  else mount.openWith host path (mount.kind.effectiveMode mode)

def createFile (mount : Mount) (host : Host) (path : GuestPath) (size : UInt64) :
    Host × Except ResultCode Unit :=
  if mount.kind = .extSaveData ∧ size = 0 then (host, .error .unsupportedOpenFlags)
  else
    match mount.resolve host .createFile path with
    | .error code => (host, .error code)
    | .ok target => host.allocate target size

def settle (host : Host) (code : ResultCode) : Except HostError Host → Host × Except ResultCode Unit
  | .error _ => (host, .error code)
  | .ok changed => (changed, .ok ())

def deleteFile (mount : Mount) (host : Host) (path : GuestPath) : Host × Except ResultCode Unit :=
  match mount.resolve host .deleteFile path with
  | .error code => (host, .error code)
  | .ok target => settle host mount.kind.family.vanished (host.removeFile target)

def createDirectory (mount : Mount) (host : Host) (path : GuestPath) :
    Host × Except ResultCode Unit :=
  match mount.resolve host .createDirectory path with
  | .error code => (host, .error code)
  | .ok target => settle host .operationCanceled (host.createDirectory target)

def deletable (mount : Mount) (host : Host) (path : GuestPath) : Except ResultCode HostPath :=
  if path.isRoot then .error mount.kind.family.rootDeletion
  else mount.resolve host .deleteDirectory path

def deleteDirectory (mount : Mount) (host : Host) (path : GuestPath) :
    Host × Except ResultCode Unit :=
  match mount.deletable host path with
  | .error code => (host, .error code)
  | .ok target => settle host mount.kind.family.deletionFailed (host.removeDirectory target)

def deleteDirectoryRecursively (mount : Mount) (host : Host) (path : GuestPath) :
    Host × Except ResultCode Unit :=
  match mount.deletable host path with
  | .error code => (host, .error code)
  | .ok target =>
    match host.removeDirectoryTree target with
    | (host, .error _) => (host, .error mount.kind.family.deletionFailed)
    | (host, .ok ()) => (host, .ok ())

def openDirectory (mount : Mount) (host : Host) (path : GuestPath) : Except ResultCode Listing :=
  if mount.kind = .sdCardWriteOnly then .error .unsupportedOpenFlags
  else
    match mount.resolve host .openDirectory path with
    | .error code => .error code
    | .ok target => .ok (.ofDirectory host target)

/-- Files and directories are renamed alike; neither path is classified. -/
def rename (mount : Mount) (host : Host) (source target : GuestPath) :
    Host × Except ResultCode Unit :=
  match source.segments?, target.segments? with
  | some source, some target =>
    settle host .renameFailed
      (host.rename (mount.mountPoint.descendant source) (mount.mountPoint.descendant target))
  | _, _ => (host, .error .invalidPath)

end Mount

namespace Archive

def name : Archive → String
  | mounted mount => mount.name
  | image romFs => "IVFC: " ++ romFs.path.toString

/-- An image ignores path and mode, and opens the container anew for every handle. -/
def openFile (archive : Archive) (host : Host) (path : GuestPath) (mode : OpenMode) :
    Host × Except ResultCode FileHandle :=
  match archive with
  | mounted mount => mount.openFile host path mode
  | image romFs =>
    match host.openFile romFs.path false with
    | .error _ => (host, .error .notFound)
    | .ok file => (host, .ok (.image (.ofImage file romFs)))

def change (archive : Archive) (host : Host)
    (act : Mount → Host × Except ResultCode Unit) : Host × Except ResultCode Unit :=
  match archive with
  | mounted mount => act mount
  | image _ => (host, .error .unsupportedOperation)

def createFile (archive : Archive) (host : Host) (path : GuestPath) (size : UInt64) :
    Host × Except ResultCode Unit :=
  archive.change host (·.createFile host path size)

def deleteFile (archive : Archive) (host : Host) (path : GuestPath) :
    Host × Except ResultCode Unit :=
  archive.change host (·.deleteFile host path)

def createDirectory (archive : Archive) (host : Host) (path : GuestPath) :
    Host × Except ResultCode Unit :=
  archive.change host (·.createDirectory host path)

def deleteDirectory (archive : Archive) (host : Host) (path : GuestPath) :
    Host × Except ResultCode Unit :=
  archive.change host (·.deleteDirectory host path)

def deleteDirectoryRecursively (archive : Archive) (host : Host) (path : GuestPath) :
    Host × Except ResultCode Unit :=
  archive.change host (·.deleteDirectoryRecursively host path)

def rename (archive : Archive) (host : Host) (source target : GuestPath) :
    Host × Except ResultCode Unit :=
  archive.change host (·.rename host source target)

def openDirectory (archive : Archive) (host : Host) (path : GuestPath) :
    Except ResultCode Listing :=
  match archive with
  | mounted mount => mount.openDirectory host path
  | image _ => .ok .empty

def freeBytes : Archive → Nat
  | mounted _ => freeBytesOnDisk
  | image _ => 0

end Archive

end GuestStorage
