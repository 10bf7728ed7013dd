import GuestStorage.Proofs.Archive.Failures
import GuestStorage.Proofs.Host.Effects

/-!
# What the operations of a disk archive need and do

Every operation on one path has a condition on what stands where the path leads: with it the operation
succeeds and has its effect, without it the operation fails and changes nothing. `Ready` has the conditions,
on which both tables of refusals agree, and `disk_operates` puts conditions and effects together.
-/

namespace GuestStorage

namespace PathOperation

def accepts : PathOperation → HostStatus → Bool
  | .openFile create, status => status = .fileFound || create && status = .notFound
  | .createFile, status | .createDirectory, status => status = .notFound
  | .deleteFile, status => status = .fileFound
  | .deleteDirectory, status | .openDirectory, status => status = .directoryFound

def Ready (tree : Tree) (location : Location) : PathOperation → Prop
  | .openFile create =>
    (∃ id, tree.find? location = some (.file id)) ∨ create = true ∧ tree.Vacant location
  | .createFile | .createDirectory => tree.Vacant location
  | .deleteFile => ∃ id, tree.find? location = some (.file id)
  | .deleteDirectory | .openDirectory => tree.find? location = some .directory

theorem accepts_iff {tree : Tree} {location : Location} {status : HostStatus}
    (classified : Host.Classified tree location status) (operation : PathOperation) :
    operation.accepts status = true ↔ operation.Ready tree location := by
  cases operation <;>
    simp [accepts, Ready, classified.directoryFound_iff, classified.fileFound_iff, classified.notFound_iff]

end PathOperation

@[simp] theorem CodeFamily.refusal_eq_none_iff (family : CodeFamily) (operation : PathOperation)
    (status : HostStatus) : family.refusal operation status = none ↔ operation.accepts status = true := by
  cases family <;> cases operation <;> cases status <;>
    simp [refusal, cardRefusal, saveRefusal, PathOperation.accepts]

/-- With the condition the call succeeds and has the effect, without it the call fails and changes
nothing. -/
structure Settles {α : Type} (before : Host) (condition : Prop) (effect : Host → α → Prop)
    (result : Host × Except ResultCode α) : Prop where
  succeeds : condition → ∃ after answer, result = (after, .ok answer) ∧ effect after answer
  refuses : ¬ condition → ∃ code, result = (before, .error code)

structure Lists (host : Host) (location : Location) (listing : Listing) : Prop where
  position : listing.position = 0
  entries : ∀ item, item ∈ listing.entries ↔ ∃ name entry,
    host.tree.find? (location ++ [name]) = some entry ∧
      item = ⟨name, entry.isDirectory, host.sizeOf entry⟩

theorem Host.lists_ofDirectory {host : Host} {path : HostPath} {location : Location}
    (opened : host.lookup path = .ok (location, .directory)) : Lists host location (.ofDirectory host path) := by
  simp only [Listing.ofDirectory, list, opened]
  refine ⟨rfl, fun item => ?_⟩
  simp only [List.mem_map, List.mem_mergeSort, Prod.exists, Tree.mem_children_iff, @eq_comm _ item]

namespace Mount

open HostPath

variable {mount : Mount} {host : Host} {path : GuestPath} {segments : List String}

theorem resolve_of_ready (addressed : host.Addressed mount.mountPoint segments)
    (parsed : path.segments? = some segments) (operation : PathOperation)
    (ready : operation.Ready host.tree (host.site mount.mountPoint ++ segments)) :
    mount.resolve host operation path = .ok (mount.mountPoint.descendant segments) := by
  have accepted := (PathOperation.accepts_iff addressed.status_classified operation).mpr ready
  simp only [resolve, parsed, (CodeFamily.refusal_eq_none_iff ..).mpr accepted]

theorem resolve_of_not_ready (addressed : host.Addressed mount.mountPoint segments)
    (parsed : path.segments? = some segments) (operation : PathOperation)
    (unready : ¬ operation.Ready host.tree (host.site mount.mountPoint ++ segments)) :
    ∃ code, mount.resolve host operation path = .error code := by
  cases refused : mount.kind.family.refusal operation (host.status mount.mountPoint segments) with
  | some code => exact ⟨code, by simp only [resolve, parsed, refused]⟩
  | none =>
      have accepted := (CodeFamily.refusal_eq_none_iff ..).mp refused
      exact absurd ((PathOperation.accepts_iff addressed.status_classified operation).mp accepted) unready

theorem settles_of_resolve (addressed : host.Addressed mount.mountPoint segments)
    (parsed : path.segments? = some segments) (operation : PathOperation) {α : Type}
    {effect : Host → α → Prop} {act : HostPath → Host × Except ResultCode α}
    (acts : operation.Ready host.tree (host.site mount.mountPoint ++ segments) →
      ∃ after answer, act (mount.mountPoint.descendant segments) = (after, .ok answer) ∧
        effect after answer) :
    Settles host (operation.Ready host.tree (host.site mount.mountPoint ++ segments)) effect
      (match mount.resolve host operation path with
        | .error code => (host, .error code)
        | .ok target => act target) where
  succeeds ready := by
    rw [resolve_of_ready addressed parsed operation ready]
    exact acts ready
  refuses unready := by
    obtain ⟨code, refused⟩ := resolve_of_not_ready addressed parsed operation unready
    exact ⟨code, by rw [refused]⟩

theorem createDirectory_settles (addressed : host.Addressed mount.mountPoint segments)
    (parsed : path.segments? = some segments) :
    Settles host (host.tree.Vacant (host.site mount.mountPoint ++ segments))
      (fun after _ => DirectoryAdded (host.site mount.mountPoint ++ segments) host after)
      (mount.createDirectory host path) := by
  refine settles_of_resolve addressed parsed .createDirectory fun vacant => ?_
  exact ⟨_, _, by rw [Host.createDirectory_of_vacant addressed vacant]; rfl,
    Host.directoryAdded_addDirectory vacant⟩

theorem deleteFile_settles (addressed : host.Addressed mount.mountPoint segments)
    (parsed : path.segments? = some segments) :
    Settles host (∃ id, host.tree.find? (host.site mount.mountPoint ++ segments) = some (.file id))
      (fun after _ => EntriesRemoved (· = host.site mount.mountPoint ++ segments) host after)
      (mount.deleteFile host path) := by
  refine settles_of_resolve addressed parsed .deleteFile ?_
  rintro ⟨id, stands⟩
  refine ⟨_, _, by rw [Host.removeFile_of_file addressed stands]; rfl, Host.entriesRemoved_leaf ?_ ?_⟩
  · exact Tree.ne_nil_of_find? stands nofun
  · rintro place ⟨rest, nonempty, rfl⟩
    exact Tree.find?_of_blocked (by simp [stands]) nonempty

theorem createFile_settles (addressed : host.Addressed mount.mountPoint segments)
    (parsed : path.segments? = some segments) {size : UInt64}
    (supported : ¬ (mount.kind = .extSaveData ∧ size = 0)) (fits : size.toNat < Medium.limit) :
    Settles host (host.tree.Vacant (host.site mount.mountPoint ++ segments))
      (fun after _ => FileAdded (host.site mount.mountPoint ++ segments) size.toNat host after)
      (mount.createFile host path size) := by
  rw [createFile, if_neg supported]
  refine settles_of_resolve addressed parsed .createFile fun vacant => ?_
  obtain ⟨parent, name, whole, located⟩ := addressed.locate_vacant vacant
  have named := named_descendant mount.mountPoint parsed (addressed.ne_nil_of_vacant vacant)
  have allocated := Host.allocate_missing named located size
  rw [if_neg (Nat.not_le.mpr fits), whole] at allocated
  exact ⟨_, _, allocated, Host.fileAdded_setContents vacant size.toNat⟩

theorem not_root_iff (parsed : path.segments? = some segments) :
    path.isRoot = false ↔ segments ≠ [] := by
  rw [GuestPath.isRoot, parsed, decide_eq_false_iff_not, Option.some.injEq]

theorem site_append_ne_nil (host : Host) (mountPoint : HostPath) (nonempty : segments ≠ []) :
    host.site mountPoint ++ segments ≠ [] := by
  simp [nonempty]

theorem settles_of_deletable (addressed : host.Addressed mount.mountPoint segments)
    (parsed : path.segments? = some segments) {condition : Prop} {effect : Host → Unit → Prop}
    {act : HostPath → Host × Except ResultCode Unit}
    (acts : segments ≠ [] →
      host.tree.find? (host.site mount.mountPoint ++ segments) = some .directory →
        Settles host condition effect (act (mount.mountPoint.descendant segments))) :
    Settles host
      (path.isRoot = false ∧
        host.tree.find? (host.site mount.mountPoint ++ segments) = some .directory ∧ condition)
      effect
      (match mount.deletable host path with
        | .error code => (host, .error code)
        | .ok target => act target) := by
  cases root : path.isRoot with
  | true =>
      rw [deletable, if_pos root]
      exact ⟨fun met => absurd met.1 (by decide), fun _ => ⟨_, rfl⟩⟩
  | false =>
      rw [deletable, if_neg (Bool.eq_false_iff.mp root)]
      by_cases stands : host.tree.find? (host.site mount.mountPoint ++ segments) = some .directory
      · obtain ⟨succeeds, refuses⟩ := acts ((not_root_iff parsed).mp root) stands
        rw [resolve_of_ready addressed parsed .deleteDirectory stands]
        exact ⟨fun met => succeeds met.2.2, fun unmet => refuses fun met => unmet ⟨rfl, stands, met⟩⟩
      · obtain ⟨code, refused⟩ := resolve_of_not_ready addressed parsed .deleteDirectory stands
        rw [refused]
        exact ⟨fun met => absurd met.2.1 stands, fun _ => ⟨code, rfl⟩⟩

theorem deleteDirectory_settles (addressed : host.Addressed mount.mountPoint segments)
    (parsed : path.segments? = some segments) :
    Settles host
      (path.isRoot = false ∧
        host.tree.find? (host.site mount.mountPoint ++ segments) = some .directory ∧
        ∀ place, StrictlyBelow (host.site mount.mountPoint ++ segments) place →
          host.tree.find? place = none)
      (fun after _ => EntriesRemoved (· = host.site mount.mountPoint ++ segments) host after)
      (mount.deleteDirectory host path) := by
  refine settles_of_deletable addressed parsed fun inside stands => ?_
  have nonempty := site_append_ne_nil host mount.mountPoint inside
  have named := endsInName_descendant mount.mountPoint parsed inside
  simp only [Host.removeDirectory, addressed.lookup_descendant stands, named, nonempty, Bool.not_true,
    Bool.false_eq_true, or_self, if_false]
  rw [← Tree.children_eq_nil_iff]
  by_cases empty : host.tree.children (host.site mount.mountPoint ++ segments) = []
  · rw [if_pos empty]
    have removed := Host.entriesRemoved_leaf nonempty (Tree.children_eq_nil_iff.mp empty)
    exact ⟨fun _ => ⟨_, _, rfl, removed⟩, absurd empty⟩
  · rw [if_neg empty]
    exact ⟨fun met => absurd met empty, fun _ => ⟨_, rfl⟩⟩

theorem deleteDirectoryRecursively_settles (addressed : host.Addressed mount.mountPoint segments)
    (parsed : path.segments? = some segments) :
    Settles host
      (path.isRoot = false ∧
        host.tree.find? (host.site mount.mountPoint ++ segments) = some .directory)
      (fun after _ => EntriesRemoved (host.site mount.mountPoint ++ segments <+: ·) host after)
      (mount.deleteDirectoryRecursively host path) := by
  rw [← and_true (_ = some Entry.directory)]
  refine settles_of_deletable addressed parsed fun inside stands => ?_
  have nonempty := site_append_ne_nil host mount.mountPoint inside
  have named := endsInName_descendant mount.mountPoint parsed inside
  simp only [Host.removeDirectoryTree, addressed.lookup_descendant stands, named, nonempty, if_true,
    if_false]
  exact ⟨fun _ => ⟨_, _, rfl, Host.entriesRemoved_removeAll nonempty⟩, absurd trivial⟩

theorem openDirectory_settles (addressed : host.Addressed mount.mountPoint segments)
    (parsed : path.segments? = some segments) (supported : mount.kind ≠ .sdCardWriteOnly) :
    Settles host (host.tree.find? (host.site mount.mountPoint ++ segments) = some .directory)
      (fun after listing => after = host ∧ Lists host (host.site mount.mountPoint ++ segments) listing)
      (host, mount.openDirectory host path) where
  succeeds stands := by
    rw [openDirectory, if_neg supported, resolve_of_ready addressed parsed .openDirectory stands]
    exact ⟨_, _, rfl, rfl, Host.lists_ofDirectory (addressed.lookup_descendant stands)⟩
  refuses apart := by
    obtain ⟨code, refused⟩ := resolve_of_not_ready addressed parsed .openDirectory apart
    exact ⟨code, by rw [openDirectory, if_neg supported, refused]⟩

def Opened (location : Location) (mode : OpenMode) (before after : Host) (handle : FileHandle) : Prop :=
  ∃ id, handle = .disk ⟨some ⟨.file id, mode.write⟩, mode⟩ ∧
    after.tree.find? location = some (.file id) ∧
    (before.tree.find? location = some (.file id) ∧ after = before ∨
      before.tree.find? location = none ∧ FileAdded location 0 before after)

theorem handleAt_disk (disk : mount.kind = .disk) {target : HostPath} {location : Location} {id : Nat}
    (mode : OpenMode) (found : host.lookup target = .ok (location, .file id)) :
    mount.handleAt host target mode = .ok (.disk ⟨some ⟨.file id, mode.write⟩, mode⟩) := by
  simp [handleAt, disk, Host.openFile, found, Entry.isDirectory]

theorem openFile_settles (disk : mount.kind = .disk)
    (addressed : host.Addressed mount.mountPoint segments) (parsed : path.segments? = some segments)
    {mode : OpenMode} (nonempty : mode.isEmpty = false)
    (creating : mode.create = true → mode.write = true) :
    Settles host
      ((∃ id, host.tree.find? (host.site mount.mountPoint ++ segments) = some (.file id)) ∨
        mode.create = true ∧ host.tree.Vacant (host.site mount.mountPoint ++ segments))
      (Opened (host.site mount.mountPoint ++ segments) mode host) (mount.openFile host path mode) := by
  have accepted : MountKind.disk.accepts mode = true := by
    cases create : mode.create <;> simp_all [MountKind.accepts]
  have valid : path.isValid = true := by
    rw [GuestPath.isValid, parsed]
    rfl
  have effective : MountKind.disk.effectiveMode mode = mode := rfl
  have shown := addressed.entryAt?_descendant
  simp only [openFile, openWith, disk, effective, valid, accepted, Bool.not_true, Bool.false_eq_true,
    if_false, reduceCtorEq, false_and]
  refine settles_of_resolve addressed parsed (.openFile mode.create) ?_
  rintro (⟨id, stands⟩ | ⟨-, vacant⟩)
  · rw [stands] at shown
    have opens := handleAt_disk disk mode (addressed.lookup_descendant stands)
    simp only [Host.hasEntry, shown, Option.isSome_some, if_true, opens]
    exact ⟨_, _, rfl, id, rfl, stands, .inl ⟨stands, rfl⟩⟩
  · rw [vacant.absent] at shown
    obtain ⟨parent, name, whole, located⟩ := addressed.locate_vacant vacant
    have named := named_descendant mount.mountPoint parsed (addressed.ne_nil_of_vacant vacant)
    have made := Host.createFile_missing named located
    -- The file is opened by its path again, which now leads to what was just made.
    obtain ⟨location, found⟩ := (Host.createFile_eq_ok made).leads
    have allocated : host.allocate (mount.mountPoint.descendant segments) 0 =
        (host.addFile (parent ++ [name]), .ok ()) := by
      rw [Host.allocate, made]
      rfl
    rw [whole] at allocated found
    have opens := handleAt_disk disk mode found
    simp only [Host.hasEntry, shown, Option.isSome_none, Bool.false_eq_true, if_false, allocated, opens]
    have there := (Host.entryAdded_addFile vacant).entries (host.site mount.mountPoint ++ segments)
    rw [if_pos rfl] at there
    exact ⟨_, _, rfl, _, rfl, there, .inr ⟨vacant.absent, Host.fileAdded_addFile vacant⟩⟩

/-- When each operation on a path succeeds in a disk archive, and what it does at the location that the
path leads to. -/
structure Operates (host : Host) (mountPoint : HostPath) (path : GuestPath) (location : Location) :
    Prop where
  createDirectory : Settles host (host.tree.Vacant location)
    (fun after _ => DirectoryAdded location host after)
    (createDirectory ⟨.disk, mountPoint⟩ host path)
  createFile : ∀ size : UInt64, size.toNat < Medium.limit →
    Settles host (host.tree.Vacant location)
      (fun after _ => FileAdded location size.toNat host after)
      (createFile ⟨.disk, mountPoint⟩ host path size)
  openFile : ∀ mode : OpenMode, mode.isEmpty = false → (mode.create = true → mode.write = true) →
    Settles host
      ((∃ id, host.tree.find? location = some (.file id)) ∨
        mode.create = true ∧ host.tree.Vacant location)
      (Opened location mode host) (openFile ⟨.disk, mountPoint⟩ host path mode)
  deleteFile : Settles host (∃ id, host.tree.find? location = some (.file id))
    (fun after _ => EntriesRemoved (· = location) host after)
    (deleteFile ⟨.disk, mountPoint⟩ host path)
  deleteDirectory : Settles host
    (path.isRoot = false ∧ host.tree.find? location = some .directory ∧
      ∀ place, StrictlyBelow location place → host.tree.find? place = none)
    (fun after _ => EntriesRemoved (· = location) host after)
    (deleteDirectory ⟨.disk, mountPoint⟩ host path)
  deleteDirectoryRecursively : Settles host
    (path.isRoot = false ∧ host.tree.find? location = some .directory)
    (fun after _ => EntriesRemoved (location <+: ·) host after)
    (deleteDirectoryRecursively ⟨.disk, mountPoint⟩ host path)
  openDirectory : Settles host (host.tree.find? location = some .directory)
    (fun after listing => after = host ∧ Lists host location listing)
    (host, openDirectory ⟨.disk, mountPoint⟩ host path)

/-- Whatever the tree of the host is, no check of a disk archive and no call on the host refuses a path of
legal names for any other reason than what stands where it leads. -/
theorem disk_operates {host : Host} {mountPoint : HostPath} {path : GuestPath} {segments : List String}
    (directory : host.isDirectory mountPoint = true) (parsed : path.segments? = some segments)
    (short : ∀ segment ∈ segments, segment.utf8ByteSize ≤ Host.maxNameLength)
    (unterminated : ∀ segment ∈ segments, '\x00' ∉ segment.toList) :
    Operates host mountPoint path (host.site mountPoint ++ segments) := by
  have names : ∀ segment ∈ segments, Host.Names segment := by
    intro segment member
    have proper := GuestPath.proper_of_segments? parsed segment member
    exact ⟨proper.nontrivial, proper.notUp, short segment member⟩
  have addressed : host.Addressed (Mount.mk .disk mountPoint).mountPoint segments :=
    ⟨directory, names, unterminated⟩
  exact {
    createDirectory := createDirectory_settles addressed parsed
    createFile := fun size fits => createFile_settles addressed parsed (by simp) fits
    openFile := fun mode nonempty creating => openFile_settles rfl addressed parsed nonempty creating
    deleteFile := deleteFile_settles addressed parsed
    deleteDirectory := deleteDirectory_settles addressed parsed
    deleteDirectoryRecursively := deleteDirectoryRecursively_settles addressed parsed
    openDirectory := openDirectory_settles addressed parsed (by simp) }

theorem disk_operates_emptyCard :
    (∃ after, createDirectory ⟨.disk, .ofString "/m"⟩ Host.emptyCard (.char "/d/") = (after, .ok ()) ∧
      DirectoryAdded ["m", "d"] Host.emptyCard after) ∧
    ∃ code, deleteFile ⟨.disk, .ofString "/m"⟩ Host.emptyCard (.char "/d/") = (Host.emptyCard, .error code) := by
  have parsed : GuestPath.segments? (.char "/d/") = some ["d"] := by decide +kernel
  have directory : Host.emptyCard.isDirectory (.ofString "/m") = true := by decide +kernel
  have site : Host.emptyCard.site (.ofString "/m") = ["m"] := by decide +kernel
  have operates := disk_operates directory parsed (by decide +kernel) (by decide +kernel)
  rw [site] at operates
  have vacant : Host.emptyCard.tree.Vacant ["m", "d"] := ⟨by decide +kernel, by decide +kernel⟩
  obtain ⟨after, _, made, added⟩ := operates.createDirectory.succeeds vacant
  refine ⟨⟨after, made, added⟩, operates.deleteFile.refuses ?_⟩
  rintro ⟨id, stands⟩
  have absent : Host.emptyCard.tree.find? ["m", "d"] = none := vacant.absent
  rw [show ["m"] ++ ["d"] = ["m", "d"] from rfl, absent] at stands
  cases stands

end Mount

end GuestStorage
