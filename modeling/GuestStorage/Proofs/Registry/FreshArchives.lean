import GuestStorage.Proofs.Archive.Operations
import GuestStorage.Proofs.Host.DirectoryPaths
import GuestStorage.Proofs.Registry.Formatting

namespace GuestStorage

theorem OrdinaryName.proper {text : String} (ordinary : OrdinaryName text) : HostPath.Proper text :=
  ⟨ordinary.names.nontrivial, ordinary.names.notUp⟩

namespace Mount

/-- The root lists nothing, and no other file or directory is there to be opened. -/
structure Fresh (mount : Mount) (host : Host) : Prop where
  root : ∀ path, path.segments? = some [] → mount.openDirectory host path = .ok .empty
  files : ∀ path segments mode, path.segments? = some segments → segments ≠ [] →
    mount.kind.accepts mode = true → mode.create = false →
      mount.openFile host path mode = (host, .error .fileNotFound) ∨
        mount.openFile host path mode = (host, .error .pathNotFound)
  directories : ∀ path segments, path.segments? = some segments → segments ≠ [] →
    mount.openDirectory host path = .error .pathNotFound

variable {mount : Mount} {host : Host} {segments : List String}

theorem status_of_clear {mountPoint : HostPath} (directory : host.isDirectory mountPoint = true)
    (clear : ∀ location, StrictlyBelow (host.site mountPoint) location → host.tree.find? location = none)
    (proper : ∀ segment ∈ segments, HostPath.Proper segment) (nonempty : segments ≠ []) :
    host.status mountPoint segments = .notFound ∨ host.status mountPoint segments = .pathNotFound := by
  obtain ⟨segment, rest, rfl⟩ := List.exists_cons_of_ne_nil nonempty
  have absent : host.entryAt? (mountPoint.child segment) = none := by
    cases stands : host.entryAt? (mountPoint.child segment) with
    | none => rfl
    | some entry =>
        have single : ∀ other ∈ [segment], HostPath.Proper other := fun other member =>
          List.mem_singleton.mp member ▸ proper segment List.mem_cons_self
        have place : host.site (mountPoint.child segment) = host.site mountPoint ++ [segment] :=
          host.site_descendant mountPoint single
        have found := Host.lookup_eq_ok (Host.entryAt?_eq_some_iff.mp stands)
        rw [place, clear _ ⟨[segment], List.cons_ne_nil segment [], rfl⟩] at found
        cases found
  rw [Host.status, if_pos directory]
  cases rest with
  | nil =>
      rw [Host.statusBelow, Host.leafStatus, absent]
      exact .inl rfl
  | cons next more =>
      rw [Host.statusBelow, absent]
      · exact .inr rfl
      · simp

theorem ofDirectory_eq_empty_iff {path : HostPath}
    (found : host.lookup path = .ok (host.site path, .directory)) :
    Listing.ofDirectory host path = .empty ↔
      ∀ location, StrictlyBelow (host.site path) location → host.tree.find? location = none := by
  rw [← Tree.children_eq_nil_iff]
  simp only [Listing.ofDirectory, Host.list, found, Listing.empty, Listing.mk.injEq, List.map_eq_nil_iff, and_true]
  rw [← List.length_eq_zero_iff, List.length_mergeSort, List.length_eq_zero_iff]

theorem openFile_of_save (save : mount.kind.family = .save) {path : GuestPath}
    (parsed : path.segments? = some segments) {mode : OpenMode} (accepted : mount.kind.accepts mode = true)
    {code : ResultCode}
    (refused : CodeFamily.save.refusal (.openFile mode.create) (host.status mount.mountPoint segments) = some code) :
    mount.openFile host path mode = (host, .error code) := by
  obtain ⟨writable, plain⟩ : mount.kind ≠ .sdCardWriteOnly ∧ mount.kind ≠ .sdCard := by
    constructor <;> intro same <;> rw [same] at save <;> cases save
  have asked : mount.kind.effectiveMode mode = mode := if_neg plain
  have valid : path.isValid = true := by rw [GuestPath.isValid, parsed]; rfl
  have refused : mount.resolve host (.openFile mode.create) path = .error code := by
    simp only [resolve, parsed, save, refused]
  rw [openFile, if_neg (fun both => writable both.1), asked, openWith, valid, accepted, refused]
  rfl

theorem Fresh.isDirectory (fresh : mount.Fresh host) : host.isDirectory mount.mountPoint = true := by
  cases directory : host.isDirectory mount.mountPoint with
  | true => rfl
  | false =>
      have root : (GuestPath.char "/").segments? = some [] := by decide
      have listed := fresh.root (.char "/") root
      have refused : ∃ code, mount.resolve host .openDirectory (.char "/") = .error code := by
        simp only [resolve, root, Host.status, directory, Bool.false_eq_true, if_false]
        cases mount.kind.family <;> exact ⟨_, rfl⟩
      obtain ⟨code, refused⟩ := refused
      rw [openDirectory, refused] at listed
      split at listed <;> cases listed

theorem fresh_iff (save : mount.kind.family = .save)
    (found : host.lookup mount.mountPoint = .ok (host.site mount.mountPoint, .directory)) :
    mount.Fresh host ↔
      ∀ location, StrictlyBelow (host.site mount.mountPoint) location → host.tree.find? location = none := by
  have directory := Host.isDirectory_iff.mpr found
  have readable : mount.kind ≠ .sdCardWriteOnly := by
    intro writeOnly
    rw [writeOnly] at save
    cases save
  constructor
  · intro fresh
    have root : (GuestPath.char "/").segments? = some [] := by decide
    have listed := fresh.root (.char "/") root
    rw [openDirectory_of_directory readable directory root directory] at listed
    exact (ofDirectory_eq_empty_iff found).mp (Except.ok.inj listed)
  · intro clear
    refine ⟨fun path root => ?_, fun path segments mode parsed inside accepted noCreate => ?_,
      fun path segments parsed inside => ?_⟩
    · rw [openDirectory_of_directory readable directory root directory]
      exact congrArg Except.ok ((ofDirectory_eq_empty_iff found).mpr clear)
    · rcases status_of_clear directory clear (GuestPath.proper_of_segments? parsed) inside with status | status
      · exact .inl (openFile_of_save save parsed accepted (by rw [status, noCreate]; rfl))
      · exact .inr (openFile_of_save save parsed accepted (by rw [status]; rfl))
    · have status := status_of_clear directory clear (GuestPath.proper_of_segments? parsed) inside
      simp only [openDirectory, if_neg readable, resolve, parsed, save]
      rcases status with status | status <;> rw [status] <;> rfl

end Mount

structure Stored (location : Location) (data : Bytes) (before after : Host) : Prop where
  workingDirectory : after.workingDirectory = before.workingDirectory
  entries : ∀ place, place ≠ location → after.tree.find? place = before.tree.find? place
  contents : ∀ place id, place ≠ location → before.tree.find? place = some (.file id) →
    after.contents id = before.contents id
  replaced : before.tree.find? location ≠ some .directory
  stands : ∃ id, after.tree.find? location = some (.file id) ∧ (after.contents id).toBytes = data

namespace Stored

variable {location : Location} {data : Bytes} {before after host : Host} {id : Nat}

theorem overwritten (stands : host.tree.find? location = some (.file id)) :
    Stored location data host (host.setContents id (.ofBytes data)) where
  workingDirectory := rfl
  entries _ _ := rfl
  contents place other apart stood := by
    refine Host.contents_setContents_of_ne host ?_ _
    rintro rfl
    exact apart (Tree.file_location_unique stood stands)
  replaced := by
    rw [stands]
    nofun
  stands := by
    have stored := host.stored id (Tree.mem_fileIds_of_find? stands)
    exact ⟨id, stands, by simp [stored]⟩

theorem added (vacant : host.tree.Vacant location) :
    Stored location data host ((host.addFile location).setContents host.files.length (.ofBytes data)) := by
  have added := Host.entryAdded_addFile vacant
  refine ⟨rfl, fun place apart => (added.entries place).trans (if_neg apart), fun place id _ stood => ?_, ?_,
    host.files.length, (added.entries location).trans (if_pos rfl), ?_⟩
  · have old := host.stored id (Tree.mem_fileIds_of_find? stood)
    simp [Nat.ne_of_lt old, added.contents id old]
  · rw [vacant.absent]
    nofun
  · simp

theorem keepsDirectories (stored : Stored location data before after) : before.KeepsDirectories after := by
  intro place stands
  rw [stored.entries, stands]
  rintro rfl
  exact stored.replaced stands

end Stored

variable {host after : Host} {path : HostPath} {data : Bytes}

theorem Host.createFile_cases {id : Nat} {created : Host} (named : path.parts.getLast? ≠ some "")
    (creates : host.createFile path = .ok (created, id)) :
    (host.tree.find? (host.site path) = some (.file id) ∧ created = host.setContents id .empty) ∨
      host.tree.Vacant (host.site path) ∧ id = host.files.length ∧ created = host.addFile (host.site path) := by
  rw [Host.createFile, Host.trimmed_of_named named] at creates
  split at creates
  · cases creates
  · split at creates
    · cases creates
    · cases creates
    · rename_i location found located
      split at creates
      · cases creates
      · cases creates
        have place := Host.site_of_locate located
        rw [← place]
        exact .inl ⟨(Host.resolves_of_locate located).stands, rfl⟩
    · rename_i parent name located
      split at creates
      · cases creates
      · cases creates
        have place := Host.site_of_locate located
        have free := (Host.resolves_of_locate located).free
        rw [← place]
        exact .inr ⟨Host.vacant_child free.1 free.2, rfl, rfl⟩

theorem Factory.stored_of_store (named : path.parts.getLast? ≠ some "")
    (stores : store host path data = (after, .ok ())) :
    Stored (host.site path) data host after ∧
      ∃ location id, after.lookup path = .ok (location, .file id) ∧ (after.contents id).toBytes = data := by
  rw [store, Host.writeFile] at stores
  cases creates : host.createFile path with
  | error cause =>
      rw [creates] at stores
      cases stores
  | ok made =>
      obtain ⟨created, id⟩ := made
      rw [creates] at stores
      cases stores
      constructor
      · rcases Host.createFile_cases named creates with ⟨stands, rfl⟩ | ⟨vacant, rfl, rfl⟩
        · rw [Host.setContents_setContents]
          exact .overwritten stands
        · exact .added vacant
      · have left := Host.createFile_eq_ok creates
        obtain ⟨location, leads⟩ := left.leads
        exact ⟨location, id, leads, by simp [left.stored]⟩

theorem Factory.storedInfo_of_lookup {location : Location} {id : Nat} {info : FormatInfo}
    (leads : host.lookup path = .ok (location, .file id)) (holds : (host.contents id).toBytes = info.toBytes) :
    storedInfo host path = .ok info := by
  rw [storedInfo, Host.readFile, leads]
  simp [holds]

end GuestStorage
