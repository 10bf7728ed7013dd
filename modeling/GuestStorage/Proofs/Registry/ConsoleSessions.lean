import GuestStorage.Proofs.Archive.Confinement
import GuestStorage.Proofs.Registry.Registration

namespace GuestStorage

def Archive.perform (archive : Archive) (host : Host) :
    Mount.Operation → Host × Except ResultCode Mount.Outcome
  | .openFile path mode => (archive.openFile host path mode).map id (.map .file)
  | .createFile path size => (archive.createFile host path size).map id (.map fun () => .done)
  | .deleteFile path => (archive.deleteFile host path).map id (.map fun () => .done)
  | .createDirectory path => (archive.createDirectory host path).map id (.map fun () => .done)
  | .deleteDirectory path => (archive.deleteDirectory host path).map id (.map fun () => .done)
  | .deleteDirectoryRecursively path =>
    (archive.deleteDirectoryRecursively host path).map id (.map fun () => .done)
  | .openDirectory path => (host, (archive.openDirectory host path).map .listing)
  | .rename source target => (archive.rename host source target).map id (.map fun () => .done)

@[simp] theorem Archive.perform_mounted (mount : Mount) (host : Host) (operation : Mount.Operation) :
    (mounted mount).perform host operation = mount.perform host operation := by
  cases operation <;> rfl

structure HeldFile where
  owner : Option SaveInstance
  handle : FileHandle

/-- The record: the title that runs, the instance that each archive was opened for, and what was formatted,
the latest first. -/
structure ConsoleSession where
  console : Console
  running : UInt64
  owners : List (Nat × SaveInstance)
  formats : List (SaveInstance × FormatInfo)
  files : List HeldFile
  listings : List Listing

namespace ConsoleSession

inductive Request
  | openArchive (id : ArchiveId) (path : GuestPath)
  | closeArchive (archive : Nat)
  | format (id : ArchiveId) (path : GuestPath) (info : FormatInfo)
  | setProgramId (programId : UInt64)
  | perform (archive : Nat) (operation : Mount.Operation)
  | rename (source : Nat) (sourcePath : GuestPath) (target : Nat) (targetPath : GuestPath)
  | read (file : Nat) (offset : UInt64) (buffer : Bytes)
  | write (file : Nat) (offset : UInt64) (data : Bytes)
  | resize (file : Nat) (size : UInt64)
  | flush (file : Nat)
  | closeFile (file : Nat)
  | list (listing : Nat) (count : UInt64)
  deriving DecidableEq, Repr

def Request.offCard : Request → Bool
  | openArchive id _ | format id _ _ => id ≠ .sdCard && id ≠ .sdCardWriteOnly
  | _ => true

def withHost (session : ConsoleSession) (host : Host) : ConsoleSession :=
  { session with console := { session.console with host } }

def note {α : Type} (session : ConsoleSession) (id : ArchiveId) (path : GuestPath) (make : SaveInstance → α)
    (record : List α) : List α :=
  ((SaveInstance.named? session.running id path).map make).toList ++ record

def receive (session : ConsoleSession) (owner : Option SaveInstance) :
    Console × Except ResultCode Mount.Outcome → ConsoleSession
  | (console, .ok (.file handle)) => { session with console, files := session.files ++ [⟨owner, handle⟩] }
  | (console, .ok (.listing listing)) => { session with console, listings := session.listings ++ [listing] }
  | (console, .ok .done) | (console, .error _) => { session with console }

def act (session : ConsoleSession) : Request → ConsoleSession
  | .openArchive id path =>
    match session.console.openArchive id path with
    | .error _ => session
    | .ok (console, handle) => { session with console, owners := session.note id path (handle, ·) session.owners }
  | .closeArchive handle =>
    match session.console.registry.close handle with
    | .error _ => session
    | .ok registry => { session with console := { session.console with registry } }
  | .format id path info =>
    match session.console.format id path info with
    | (console, .error _) => { session with console }
    | (console, .ok ()) => { session with console, formats := session.note id path (·, info) session.formats }
  | .setProgramId programId =>
    { session with console := session.console.setProgramId programId, running := programId }
  | .perform handle operation =>
    session.receive (session.owners.lookup handle)
      (session.console.through handle fun archive host => archive.perform host operation)
  | .rename source sourcePath target targetPath =>
    { session with console := (session.console.rename source sourcePath target targetPath).1 }
  | .read index offset buffer =>
    throughHandle session.files index session fun file =>
      let handle := (file.handle.read session.console.host offset buffer).1
      { session with files := session.files.set index { file with handle } }
  | .write index offset data =>
    throughHandle session.files index session fun file =>
      match file.handle.write session.console.host offset data with
      | .error _ => session
      | .ok (host, _) => session.withHost host
  | .resize index size =>
    throughHandle session.files index session fun file =>
      match file.handle.setSize session.console.host size with
      | none => session
      | some host => session.withHost host
  | .flush index =>
    throughHandle session.files index session fun file =>
      session.withHost (file.handle.flush session.console.host)
  | .closeFile index =>
    throughHandle session.files index session fun file =>
      { session with files := session.files.set index { file with handle := file.handle.close.1 } }
  | .list index count =>
    throughHandle session.listings index session fun listing =>
      match listing.read count with
      | none => session
      | some (_, next) => { session with listings := session.listings.set index next }

/-- The instance that a request belongs to, if any. -/
def subject (session : ConsoleSession) : Request → Option SaveInstance
  | .format id path _ => SaveInstance.named? session.running id path
  | .perform handle _ | .rename handle _ _ _ => session.owners.lookup handle
  | .read index _ _ | .write index _ _ | .resize index _ | .flush index | .closeFile index =>
    session.files[index]?.bind (·.owner)
  | .openArchive .. | .closeArchive _ | .setProgramId _ | .list .. => none

def start (config : Config) (host : Host) : ConsoleSession :=
  ⟨((Console.ofHost host).registerDefaults config).1, 0, [], [], [], []⟩

def run (config : Config) (host : Host) (requests : List Request) : ConsoleSession :=
  requests.foldl act (start config host)

def lastFormat (session : ConsoleSession) (save : SaveInstance) : Option FormatInfo :=
  session.formats.lookup save

end ConsoleSession

end GuestStorage
