import GuestStorage.Archive.Basic
import GuestStorage.Proofs.Host.Calls
import GuestStorage.Proofs.Host.Frame
import GuestStorage.Proofs.Host.Obstacles

/-!
# What the operations of an archive do

`Operation` is everything that a guest can ask of a mounted archive by a path. `Performed` says what each of
them can do to the host and what it answers then, in terms of the locations that the paths lead to, and
`perform_performed` that nothing else happens.
-/

namespace GuestStorage

open HostPath

def FileHandle.file? : FileHandle → Option OpenFile
  | disk file => file.file
  | fixedSize file => file.inner.file
  | image file => file.file

def FileHandle.held? (handle : FileHandle) : Option Entry := handle.file?.map (·.entry)

namespace Mount

inductive Operation
  | openFile (path : GuestPath) (mode : OpenMode)
  | createFile (path : GuestPath) (size : UInt64)
  | deleteFile (path : GuestPath)
  | createDirectory (path : GuestPath)
  | deleteDirectory (path : GuestPath)
  | deleteDirectoryRecursively (path : GuestPath)
  | openDirectory (path : GuestPath)
  | rename (source target : GuestPath)
  deriving DecidableEq, Repr

inductive Outcome
  | done
  | file (handle : FileHandle)
  | listing (listing : Listing)
  deriving DecidableEq, Repr

def perform (mount : Mount) (host : Host) : Operation → Host × Except ResultCode Outcome
  | .openFile path mode => (mount.openFile host path mode).map id (.map .file)
  | .createFile path size => (mount.createFile host path size).map id (.map fun () => .done)
  | .deleteFile path => (mount.deleteFile host path).map id (.map fun () => .done)
  | .createDirectory path => (mount.createDirectory host path).map id (.map fun () => .done)
  | .deleteDirectory path => (mount.deleteDirectory host path).map id (.map fun () => .done)
  | .deleteDirectoryRecursively path =>
    (mount.deleteDirectoryRecursively host path).map id (.map fun () => .done)
  | .openDirectory path => (host, (mount.openDirectory host path).map .listing)
  | .rename source target => (mount.rename host source target).map id (.map fun () => .done)

theorem openDirectory_of_directory {mount : Mount} {host : Host} {path : GuestPath} {segments : List String}
    (readable : mount.kind ≠ .sdCardWriteOnly) (mounted : host.isDirectory mount.mountPoint = true)
    (parsed : path.segments? = some segments)
    (found : host.isDirectory (mount.mountPoint.descendant segments) = true) :
    mount.openDirectory host path = .ok (.ofDirectory host (mount.mountPoint.descendant segments)) := by
  have status : host.status mount.mountPoint segments = .directoryFound := by
    rw [Host.status, if_pos mounted]
    exact (Host.statusBelow_eq_directoryFound_iff mounted (GuestPath.proper_of_segments? parsed)).mpr found
  have allowed : mount.kind.family.refusal .openDirectory .directoryFound = none := by
    cases mount.kind.family <;> rfl
  simp only [openDirectory, if_neg readable, resolve, parsed, status, allowed]

/-! ## Locations -/

def Leads (mount : Mount) (host : Host) (path : GuestPath) (location : Location) : Prop :=
  ∃ segments, path.segments? = some segments ∧ segments ≠ [] ∧
    location = host.site mount.mountPoint ++ segments

theorem Leads.below {mount : Mount} {host : Host} {path : GuestPath} {location : Location}
    (leads : mount.Leads host path location) :
    StrictlyBelow (host.site mount.mountPoint) location := by
  obtain ⟨segments, -, nonempty, rfl⟩ := leads
  exact ⟨segments, nonempty, rfl⟩

theorem Leads.of_locate {mount : Mount} {host : Host} {path : GuestPath} {segments : List String}
    {spot : Spot} (parsed : path.segments? = some segments) (nonempty : segments ≠ [])
    (located : host.locate (mount.mountPoint.descendant segments) = .ok spot) :
    mount.Leads host path spot.location := by
  refine ⟨segments, parsed, nonempty, ?_⟩
  rw [Host.site_of_locate located,
    Host.site_descendant host mount.mountPoint (GuestPath.proper_of_segments? parsed)]

/-- Where `createFile` makes its file: the table lets it go on, and the name is free in a directory. -/
def Vacant (mount : Mount) (host : Host) (path : GuestPath) (location : Location) : Prop :=
  ∃ target parent name, mount.resolve host .createFile path = .ok target ∧
    host.locate target = .ok (.missing parent name) ∧ location = parent ++ [name]

/-- What an operation can have done to the host, and what it answers then. -/
inductive Performed (mount : Mount) (host : Host) :
    Operation → Host → Except ResultCode Outcome → Prop
  | refused (operation : Operation) (code : ResultCode) :
      Performed mount host operation host (.error code)
  | opened {path : GuestPath} {mode : OpenMode} {handle : FileHandle} {location : Location}
      {entry : Entry} (leads : mount.Leads host path location)
      (stands : host.tree.find? location = some entry) (holds : handle.held? = some entry) :
      Performed mount host (.openFile path mode) host (.ok (.file handle))
  | openedNew {path : GuestPath} {mode : OpenMode} {handle : FileHandle} {location : Location}
      (leads : mount.Leads host path location) (free : host.tree.find? location = none)
      (holds : handle.held? = some (.file host.files.length)) :
      Performed mount host (.openFile path mode) (host.addFile location) (.ok (.file handle))
  | created {path : GuestPath} {size : UInt64} {location : Location}
      (vacant : mount.Vacant host path location) (fits : size.toNat < Medium.limit) :
      Performed mount host (.createFile path size)
        ((host.addFile location).setContents host.files.length (.zeros size.toNat)) (.ok .done)
  | leftEmpty {path : GuestPath} {size : UInt64} {location : Location}
      (vacant : mount.Vacant host path location) (oversized : Medium.limit ≤ size.toNat) :
      Performed mount host (.createFile path size) (host.addFile location) (.error .tooLarge)
  | fileDeleted {path : GuestPath} {location : Location} {id : Nat}
      (leads : mount.Leads host path location)
      (stands : host.tree.find? location = some (.file id)) :
      Performed mount host (.deleteFile path) (host.removeAll location) (.ok .done)
  | directoryCreated {path : GuestPath} {location : Location}
      (leads : mount.Leads host path location) (free : host.tree.find? location = none) :
      Performed mount host (.createDirectory path) (host.addDirectory location) (.ok .done)
  | directoryDeleted {path : GuestPath} {location : Location}
      (leads : mount.Leads host path location)
      (stands : host.tree.find? location = some .directory)
      (empty : host.tree.children location = []) :
      Performed mount host (.deleteDirectory path) (host.removeAll location) (.ok .done)
  | treeDeleted {path : GuestPath} {location : Location} (leads : mount.Leads host path location)
      (stands : host.tree.find? location = some .directory) :
      Performed mount host (.deleteDirectoryRecursively path) (host.removeAll location) (.ok .done)
  | listed (path : GuestPath) (listing : Listing) :
      Performed mount host (.openDirectory path) host (.ok (.listing listing))
  | renamedToItself (source target : GuestPath) :
      Performed mount host (.rename source target) host (.ok .done)
  | renamed {source target : GuestPath} {former next : Location}
      (leadsSource : mount.Leads host source former) (leadsTarget : mount.Leads host target next)
      (free : host.tree.find? next = none) :
      Performed mount host (.rename source target) (host.move former next) (.ok .done)
  | replaced {source target : GuestPath} {former next : Location}
      (leadsSource : mount.Leads host source former) (leadsTarget : mount.Leads host target next) :
      Performed mount host (.rename source target) ((host.removeAll next).move former next)
        (.ok .done)

/-! ## Classification -/

theorem resolve_eq_ok {mount : Mount} {host : Host} {operation : PathOperation} {path : GuestPath}
    {target : HostPath} (resolves : mount.resolve host operation path = .ok target) :
    ∃ segments, path.segments? = some segments ∧
      mount.kind.family.refusal operation (host.status mount.mountPoint segments) = none ∧
      target = mount.mountPoint.descendant segments := by
  rw [resolve] at resolves
  split at resolves
  · contradiction
  · rename_i segments parsed
    split at resolves
    · contradiction
    · cases resolves
      exact ⟨segments, parsed, ‹_›, rfl⟩

theorem status_nil (host : Host) (mountPoint : HostPath) :
    host.status mountPoint [] = .directoryFound ∨ host.status mountPoint [] = .invalidMountPoint := by
  rw [Host.status]
  split
  · exact .inl rfl
  · exact .inr rfl

theorem segments_ne_nil {family : CodeFamily} {operation : PathOperation} {host : Host}
    {mountPoint : HostPath} {segments : List String}
    (allowed : family.refusal operation (host.status mountPoint segments) = none)
    (named : operation ≠ .deleteDirectory ∧ operation ≠ .openDirectory) : segments ≠ [] := by
  rintro rfl
  rcases status_nil host mountPoint with status | status <;> rw [status] at allowed <;>
    cases family <;> cases operation <;> simp_all [CodeFamily.refusal, CodeFamily.cardRefusal,
      CodeFamily.saveRefusal]

theorem hasEntry_of_statusBelow {host : Host} {directory : HostPath} {segments : List String}
    (status : host.statusBelow directory segments = .notFound) :
    host.hasEntry (directory.descendant segments) = false := by
  induction segments generalizing directory with
  | nil => cases status
  | cons segment rest ih =>
      cases rest with
      | nil =>
          rw [Host.statusBelow, Host.leafStatus] at status
          split at status
          · rename_i absent
            rw [Host.hasEntry, descendant, List.foldl_cons, List.foldl_nil, absent]
            rfl
          · cases status
          · cases status
      | cons next more =>
          rw [Host.statusBelow] at status
          · split at status
            · cases status
            · cases status
            · exact ih status
          · simp

theorem hasEntry_of_creation {family : CodeFamily} {operation : PathOperation} {host : Host}
    {mountPoint : HostPath} {segments : List String}
    (allowed : family.refusal operation (host.status mountPoint segments) = none)
    (creates : operation = .createFile ∨ operation = .createDirectory) :
    host.hasEntry (mountPoint.descendant segments) = false := by
  have status : host.status mountPoint segments = .notFound := by
    rcases creates with rfl | rfl <;> cases family <;>
      cases found : host.status mountPoint segments <;>
      simp_all [CodeFamily.refusal, CodeFamily.cardRefusal, CodeFamily.saveRefusal]
  rw [Host.status] at status
  split at status
  · exact hasEntry_of_statusBelow status
  · cases status

/-! ## Handles -/

theorem held?_of_handleAt {mount : Mount} {host : Host} {path : HostPath} {mode : OpenMode}
    {handle : FileHandle} (opens : mount.handleAt host path mode = .ok handle) :
    ∃ location entry, host.lookup path = .ok (location, entry) ∧ handle.held? = some entry := by
  have found {writable : Bool} {file : OpenFile} (opened : host.openFile path writable = .ok file) :
      ∃ location, host.lookup path = .ok (location, file.entry) := by
    rw [Host.openFile] at opened
    split at opened
    · contradiction
    · split at opened
      · contradiction
      · cases opened
        exact ⟨_, ‹_›⟩
  rw [handleAt] at opens
  split at opens
  · split at opens
    · contradiction
    · rename_i opened
      cases opens
      obtain ⟨location, leads⟩ := found opened
      exact ⟨location, _, leads, rfl⟩
  · split at opens
    · contradiction
    · rename_i opened
      cases opens
      obtain ⟨location, leads⟩ := found opened
      exact ⟨location, _, leads, rfl⟩

theorem handleAt_of_file (mount : Mount) (mode : OpenMode) {host : Host} {path : HostPath}
    {location : Location} {id : Nat} (found : host.lookup path = .ok (location, .file id)) :
    ∃ handle, mount.handleAt host path mode = .ok handle ∧ handle.held? = some (.file id) := by
  have opened (writable : Bool) : host.openFile path writable = .ok ⟨.file id, writable⟩ := by
    simp [Host.openFile, found, Entry.isDirectory]
  by_cases fixed : mount.kind = .extSaveData
  · exact ⟨_, by rw [handleAt, if_pos fixed, opened], rfl⟩
  · exact ⟨_, by rw [handleAt, if_neg fixed, opened], rfl⟩

/-! ## Single operations -/

section Performed

variable {mount : Mount} {host : Host} {path : GuestPath} {segments : List String}

theorem named_descendant (mountPoint : HostPath) (parsed : path.segments? = some segments)
    (nonempty : segments ≠ []) : (mountPoint.descendant segments).parts.getLast? ≠ some "" :=
  named_of_proper mountPoint nonempty (GuestPath.proper_of_segments? parsed)

theorem endsInName_descendant (mountPoint : HostPath) (parsed : path.segments? = some segments)
    (nonempty : segments ≠ []) : (mountPoint.descendant segments).endsInName = true :=
  endsInName_of_proper mountPoint nonempty (GuestPath.proper_of_segments? parsed)

theorem opened_of_handleAt {mode asked : OpenMode} (parsed : path.segments? = some segments)
    (nonempty : segments ≠ []) :
    Performed mount host (.openFile path asked) host
      ((mount.handleAt host (mount.mountPoint.descendant segments) mode).map .file) := by
  cases opens : mount.handleAt host (mount.mountPoint.descendant segments) mode with
  | error code => exact .refused _ code
  | ok handle =>
      obtain ⟨location, entry, found, holds⟩ := held?_of_handleAt opens
      exact .opened (Leads.of_locate parsed nonempty (Host.locate_of_lookup found))
        (Host.lookup_eq_ok found) holds

theorem openWith_performed (mode asked : OpenMode) :
    Performed mount host (.openFile path asked) (mount.openWith host path mode).1
      ((mount.openWith host path mode).2.map .file) := by
  rw [openWith]
  split
  · exact .refused _ _
  · split
    · exact .refused _ _
    · split
      · exact .refused _ _
      · rename_i target resolves
        obtain ⟨segments, parsed, allowed, rfl⟩ := resolve_eq_ok resolves
        have nonempty := segments_ne_nil allowed (by simp)
        split
        · exact opened_of_handleAt parsed nonempty
        · rename_i free
          have named := named_descendant mount.mountPoint parsed nonempty
          rcases Host.missing_or_refused named (by simpa using free) with
            ⟨parent, name, located⟩ | ⟨cause, refused⟩
          · have made := Host.createFile_missing named located
            obtain ⟨location, found⟩ := (Host.createFile_eq_ok made).leads
            obtain ⟨handle, opens, holds⟩ := handleAt_of_file mount mode found
            have allocated : host.allocate (mount.mountPoint.descendant segments) 0 =
                (host.addFile (parent ++ [name]), .ok ()) := by
              rw [Host.allocate, made]
              rfl
            simp only [allocated, opens]
            exact .openedNew (Leads.of_locate parsed nonempty located)
              (Host.resolves_of_locate located).free.2 holds
          · obtain ⟨code, unallocated⟩ := Host.allocate_refused refused 0
            rw [unallocated]
            exact .refused _ _

theorem Vacant.located {location : Location} (vacant : mount.Vacant host path location) :
    ∃ segments parent name, path.segments? = some segments ∧ segments ≠ [] ∧
      mount.resolve host .createFile path = .ok (mount.mountPoint.descendant segments) ∧
      host.locate (mount.mountPoint.descendant segments) = .ok (.missing parent name) ∧
      location = parent ++ [name] := by
  obtain ⟨target, parent, name, resolves, located, rfl⟩ := vacant
  obtain ⟨segments, parsed, allowed, rfl⟩ := resolve_eq_ok resolves
  exact ⟨segments, parent, name, parsed, segments_ne_nil allowed (by simp), resolves, located, rfl⟩

theorem Vacant.leads {location : Location} (vacant : mount.Vacant host path location) :
    mount.Leads host path location := by
  obtain ⟨segments, parent, name, parsed, nonempty, -, located, rfl⟩ := vacant.located
  exact .of_locate parsed nonempty located

theorem Vacant.free {location : Location} (vacant : mount.Vacant host path location) :
    host.tree.find? location = none := by
  obtain ⟨target, parent, name, -, located, rfl⟩ := vacant
  exact (Host.resolves_of_locate located).free.2

theorem createFile_of_vacant {location : Location} (vacant : mount.Vacant host path location)
    {size : UInt64} (supported : ¬ (mount.kind = .extSaveData ∧ size = 0)) :
    mount.createFile host path size =
      if Medium.limit ≤ size.toNat then (host.addFile location, .error .tooLarge)
      else ((host.addFile location).setContents host.files.length (.zeros size.toNat), .ok ()) := by
  obtain ⟨segments, parent, name, parsed, nonempty, resolves, located, rfl⟩ := vacant.located
  simp only [createFile, if_neg supported, resolves,
    Host.allocate_missing (named_descendant mount.mountPoint parsed nonempty) located]

theorem createFile_performed (path : GuestPath) (size : UInt64) :
    Performed mount host (.createFile path size) (mount.createFile host path size).1
      ((mount.createFile host path size).2.map fun () => .done) := by
  by_cases unsupported : mount.kind = .extSaveData ∧ size = 0
  · rw [createFile, if_pos unsupported]
    exact .refused _ _
  · cases resolves : mount.resolve host .createFile path with
    | error code =>
        rw [createFile, if_neg unsupported, resolves]
        exact .refused _ _
    | ok target =>
        obtain ⟨segments, parsed, allowed, rfl⟩ := resolve_eq_ok resolves
        have named := named_descendant mount.mountPoint parsed (segments_ne_nil allowed (by simp))
        rcases Host.missing_or_refused named (hasEntry_of_creation allowed (.inl rfl)) with
          ⟨parent, name, located⟩ | ⟨cause, refused⟩
        · have vacant : mount.Vacant host path (parent ++ [name]) :=
            ⟨_, parent, name, resolves, located, rfl⟩
          rw [createFile_of_vacant vacant unsupported]
          split
          · exact .leftEmpty vacant ‹_›
          · exact .created vacant (Nat.lt_of_not_le ‹_›)
        · obtain ⟨code, unallocated⟩ := Host.allocate_refused refused size
          rw [createFile, if_neg unsupported, resolves]
          simp only [unallocated]
          exact .refused _ _

theorem deleteFile_performed (path : GuestPath) :
    Performed mount host (.deleteFile path) (mount.deleteFile host path).1
      ((mount.deleteFile host path).2.map fun () => .done) := by
  rw [deleteFile]
  split
  · exact .refused _ _
  · rename_i target resolves
    obtain ⟨segments, parsed, allowed, rfl⟩ := resolve_eq_ok resolves
    have nonempty := segments_ne_nil allowed (by simp)
    rw [Host.removeFile]
    split
    · exact .refused _ _
    · exact .refused _ _
    · rename_i found
      exact .fileDeleted (Leads.of_locate parsed nonempty (Host.locate_of_lookup found))
        (Host.lookup_eq_ok found)

theorem createDirectory_performed (path : GuestPath) :
    Performed mount host (.createDirectory path) (mount.createDirectory host path).1
      ((mount.createDirectory host path).2.map fun () => .done) := by
  rw [createDirectory]
  split
  · exact .refused _ _
  · rename_i target resolves
    obtain ⟨segments, parsed, allowed, rfl⟩ := resolve_eq_ok resolves
    have nonempty := segments_ne_nil allowed (by simp)
    rw [Host.createDirectory]
    split
    · exact .refused _ _
    · exact .refused _ _
    · rename_i located
      exact .directoryCreated (Leads.of_locate parsed nonempty located)
        (Host.resolves_of_locate located).free.2

theorem deletable_eq_ok {target : HostPath} (deletes : mount.deletable host path = .ok target) :
    ∃ segments, path.segments? = some segments ∧ segments ≠ [] ∧
      target = mount.mountPoint.descendant segments := by
  rw [deletable] at deletes
  split at deletes
  · contradiction
  · rename_i notRoot
    obtain ⟨segments, parsed, -, rfl⟩ := resolve_eq_ok deletes
    refine ⟨segments, parsed, ?_, rfl⟩
    rintro rfl
    exact notRoot (decide_eq_true parsed)

theorem deleteDirectory_performed (path : GuestPath) :
    Performed mount host (.deleteDirectory path) (mount.deleteDirectory host path).1
      ((mount.deleteDirectory host path).2.map fun () => .done) := by
  rw [deleteDirectory]
  split
  · exact .refused _ _
  · rename_i target deletes
    obtain ⟨segments, parsed, nonempty, rfl⟩ := deletable_eq_ok deletes
    rw [Host.removeDirectory]
    split
    · exact .refused _ _
    · exact .refused _ _
    · rename_i found
      split
      · exact .refused _ _
      · split
        · exact .directoryDeleted (Leads.of_locate parsed nonempty (Host.locate_of_lookup found))
            (Host.lookup_eq_ok found) ‹_›
        · exact .refused _ _

theorem deleteDirectoryRecursively_performed (path : GuestPath) :
    Performed mount host (.deleteDirectoryRecursively path)
      (mount.deleteDirectoryRecursively host path).1
      ((mount.deleteDirectoryRecursively host path).2.map fun () => .done) := by
  rw [deleteDirectoryRecursively]
  split
  · exact .refused _ _
  · rename_i target deletes
    obtain ⟨segments, parsed, nonempty, rfl⟩ := deletable_eq_ok deletes
    rw [Host.removeDirectoryTree]
    cases found : host.lookup (mount.mountPoint.descendant segments) with
    | error cause => exact .refused _ _
    | ok place =>
        obtain ⟨location, entry⟩ := place
        cases entry with
        | file id => exact .refused _ _
        | directory =>
            simp only [endsInName_descendant mount.mountPoint parsed nonempty, if_true]
            by_cases root : location = []
            · rw [if_pos root]
              exact .refused _ _
            · rw [if_neg root]
              exact .treeDeleted (Leads.of_locate parsed nonempty (Host.locate_of_lookup found))
                (Host.lookup_eq_ok found)

theorem rename_performed (source target : GuestPath) :
    Performed mount host (.rename source target) (mount.rename host source target).1
      ((mount.rename host source target).2.map fun () => .done) := by
  rw [rename]
  split
  · rename_i former next parsedSource parsedTarget
    cases renames : host.rename (mount.mountPoint.descendant former)
        (mount.mountPoint.descendant next) with
    | error cause => exact .refused _ _
    | ok changed =>
        have renamed := Host.renamed_of_rename renames
        rw [Host.site_descendant host _ (GuestPath.proper_of_segments? parsedSource),
          Host.site_descendant host _ (GuestPath.proper_of_segments? parsedTarget)] at renamed
        rcases renamed.cases_below with rfl | ⟨insideSource, insideTarget⟩
        · exact .renamedToItself _ _
        · have leadsSource : mount.Leads host source (host.site mount.mountPoint ++ former) :=
            ⟨former, parsedSource, insideSource, rfl⟩
          have leadsTarget : mount.Leads host target (host.site mount.mountPoint ++ next) :=
            ⟨next, parsedTarget, insideTarget, rfl⟩
          cases renamed with
          | toItself => exact .renamedToItself _ _
          | moved stands free => exact .renamed leadsSource leadsTarget free
          | replaced => exact .replaced leadsSource leadsTarget
  · exact .refused _ _

end Performed

theorem perform_performed (mount : Mount) (host : Host) (operation : Operation) :
    Performed mount host operation (mount.perform host operation).1
      (mount.perform host operation).2 := by
  cases operation with
  | openFile path mode =>
      rw [perform, openFile]
      split
      · exact .refused _ _
      · exact openWith_performed _ mode
  | createFile path size => exact createFile_performed path size
  | deleteFile path => exact deleteFile_performed path
  | createDirectory path => exact createDirectory_performed path
  | deleteDirectory path => exact deleteDirectory_performed path
  | deleteDirectoryRecursively path => exact deleteDirectoryRecursively_performed path
  | openDirectory path =>
      rw [perform]
      cases mount.openDirectory host path with
      | error code => exact .refused _ _
      | ok listing => exact .listed path listing
  | rename source target => exact rename_performed source target

end Mount

end GuestStorage
