import GuestStorage.Archive.Factory
import GuestStorage.Config.Basic

/-!
# The registry

A registry maps archive identifiers to factories, one factory an identifier, and gives numbered handles to
the archives it opens. Numbers start at one, count the successful opens, and never come back.
-/

namespace GuestStorage

inductive ArchiveId
  | romFs
  | saveData
  | extSaveData
  | sharedExtSaveData
  | systemSaveData
  | sdCard
  | sdCardWriteOnly
  deriving DecidableEq, Repr

namespace ArchiveId

def all : List ArchiveId :=
  [romFs, saveData, extSaveData, sharedExtSaveData, systemSaveData, sdCard, sdCardWriteOnly]

def code : ArchiveId → UInt32
  | romFs => 3
  | saveData => 4
  | extSaveData => 6
  | sharedExtSaveData => 7
  | systemSaveData => 8
  | sdCard => 9
  | sdCardWriteOnly => 10

def name : ArchiveId → String
  | romFs => "RomFs"
  | saveData => "SaveData"
  | extSaveData => "ExtSaveData"
  | sharedExtSaveData => "SharedExtSaveData"
  | systemSaveData => "SystemSaveData"
  | sdCard => "Sdmc"
  | sdCardWriteOnly => "SdmcWriteOnly"

def ofCode? (code : UInt32) : Option ArchiveId := all.find? (·.code = code)

end ArchiveId

structure Registry where
  factories : List (ArchiveId × Factory)
  archives : List (Nat × Archive)
  nextHandle : Nat
  runningTitle : Option Nat
  deriving DecidableEq, Repr

namespace Registry

def empty : Registry := ⟨[], [], 1, none⟩

def isRegistered (registry : Registry) (id : ArchiveId) : Bool :=
  (registry.factories.lookup id).isSome

def register (registry : Registry) (id : ArchiveId) (factory : Factory) :
    Except ResultCode Registry :=
  if registry.isRegistered id then .error .alreadyExists
  else .ok { registry with factories := registry.factories ++ [(id, factory)] }

def factory (registry : Registry) (id : ArchiveId) : Except ResultCode Factory :=
  match registry.factories.lookup id with
  | none => .error .archiveNotMounted
  | some factory => .ok factory

def archive (registry : Registry) (handle : Nat) : Except ResultCode Archive :=
  match registry.archives.lookup handle with
  | none => .error .invalidArchiveHandle
  | some archive => .ok archive

def add (registry : Registry) (archive : Archive) : Registry × Nat :=
  ({ registry with
      archives := (registry.nextHandle, archive) :: registry.archives
      nextHandle := registry.nextHandle + 1 },
    registry.nextHandle)

def close (registry : Registry) (handle : Nat) : Except ResultCode Registry :=
  match registry.archive handle with
  | .error code => .error code
  | .ok _ => .ok { registry with archives := registry.archives.filter (·.1 ≠ handle) }

/-- The archive in which two handles rename; they have to be the same handle. -/
def renameArchive (registry : Registry) (source target : Nat) : Except ResultCode Archive :=
  match registry.archive source, registry.archive target with
  | .error code, _ => .error code
  | _, .error code => .error code
  | .ok archive, .ok _ => if source = target then .ok archive else .error .unsupportedOperation

end Registry

structure Console where
  host : Host
  registry : Registry
  titles : Titles

namespace Console

def ofHost (host : Host) : Console := ⟨host, .empty, []⟩

def openArchive (console : Console) (id : ArchiveId) (path : GuestPath) :
    Except ResultCode (Console × Nat) :=
  match console.registry.factory id with
  | .error code => .error code
  | .ok factory =>
    match factory.openArchive console.titles console.host path with
    | .error code => .error code
    | .ok archive =>
      let (registry, handle) := console.registry.add archive
      .ok ({ console with registry }, handle)

def format (console : Console) (id : ArchiveId) (path : GuestPath) (info : FormatInfo) :
    Console × Except ResultCode Unit :=
  match console.registry.factory id with
  | .error code => (console, .error code)
  | .ok factory =>
    let (host, result) := factory.format console.titles console.host path info
    ({ console with host }, result)

def formatInfo (console : Console) (id : ArchiveId) (path : GuestPath) :
    Except ResultCode FormatInfo :=
  match console.registry.factory id with
  | .error code => .error code
  | .ok factory => factory.formatInfo console.titles console.host path

def setProgramId (console : Console) (programId : UInt64) : Console :=
  match console.registry.runningTitle with
  | none => console
  | some slot => { console with titles := console.titles.set slot programId }

def through {α : Type} (console : Console) (handle : Nat)
    (act : Archive → Host → Host × Except ResultCode α) : Console × Except ResultCode α :=
  match console.registry.archive handle with
  | .error code => (console, .error code)
  | .ok archive =>
    let (host, result) := act archive console.host
    ({ console with host }, result)

def rename (console : Console) (source : Nat) (sourcePath : GuestPath) (target : Nat)
    (targetPath : GuestPath) : Console × Except ResultCode Unit :=
  match console.registry.renameArchive source target with
  | .error code => (console, .error code)
  | .ok archive =>
    let (host, result) := archive.rename console.host sourcePath targetPath
    ({ console with host }, result)

structure Stage where
  prepare : Factory
  entries : List (ArchiveId × Factory)

def defaultStages (config : Config) (slot : Nat) : List Stage :=
  let card := HostPath.ofString config.paths.sdCard
  let nand := HostPath.ofString config.paths.nand
  let systemId := config.fileSystem.systemId
  let cardId := config.fileSystem.cardId
  let sdCard := Factory.sdCard card config.fileSystem.useVirtualCard
  let ext := Factory.extSaveData (Layout.extContainer card false systemId cardId) false
  let shared := Factory.extSaveData (Layout.extContainer nand true systemId cardId) true
  let system := Factory.systemSaveData (Layout.systemContainer nand systemId)
  let save := Factory.saveData (Layout.titleContainer card systemId cardId) slot
  [⟨sdCard, [(.sdCard, sdCard), (.sdCardWriteOnly, .sdCardWriteOnly card)]⟩,
    ⟨ext, [(.extSaveData, ext)]⟩,
    ⟨shared, [(.sharedExtSaveData, shared)]⟩,
    ⟨system, [(.systemSaveData, system)]⟩,
    ⟨save, [(.saveData, save)]⟩]

def registerEach (registry : Registry) :
    List (ArchiveId × Factory) → Registry × Except ResultCode Unit
  | [] => (registry, .ok ())
  | (id, factory) :: rest =>
    match registry.register id factory with
    | .error code => (registry, .error code)
    | .ok registry => registerEach registry rest

/-- A stage whose factory cannot be initialised is left out. -/
def runStages (console : Console) : List Stage → Console × Except ResultCode Unit
  | [] => (console, .ok ())
  | stage :: rest =>
    let (host, ready) := stage.prepare.initialise console.host
    if ready then
      match registerEach console.registry stage.entries with
      | (registry, .error code) => ({ console with host, registry }, .error code)
      | (registry, .ok ()) => runStages { console with host, registry } rest
    else runStages { console with host } rest

/-- Registers the archives that a configuration describes. The titles' save data gets a slot of its own,
which `setProgramId` reaches once everything is registered. -/
def registerDefaults (console : Console) (config : Config) : Console × Except ResultCode Unit :=
  let slot := console.titles.length
  match runStages { console with titles := console.titles ++ [0] } (defaultStages config slot) with
  | (console, .error code) => (console, .error code)
  | (console, .ok ()) =>
    ({ console with registry := { console.registry with runningTitle := some slot } }, .ok ())

end Console

end GuestStorage
