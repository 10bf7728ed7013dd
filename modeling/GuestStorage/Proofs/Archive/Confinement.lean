import GuestStorage.Proofs.Archive.Numbering
import GuestStorage.Proofs.Archive.Operations

/-!
# Nothing leaves the mount point

A session is one guest at one archive: the host, and what the guest has open. Whatever it does, the host is
changed strictly below the mount point only. `Confined` carries this through a run: besides the host it keeps
that no open file is one that a name outside leads to, which is what writing needs.
-/

namespace GuestStorage

namespace FileHandle

def Changes (handle : FileHandle) (host changed : Host) : Prop :=
  changed = host ∨
    ∃ id contents, handle.held? = some (.file id) ∧ changed = host.setContents id contents

theorem changes_of_writeAt {host changed : Host} {file : OpenFile} {offset : Nat} {data : Bytes}
    (writes : host.writeAt file offset data = .ok changed) :
    changed = host ∨ ∃ id contents, file.entry = .file id ∧ changed = host.setContents id contents := by
  rw [Host.writeAt] at writes
  split at writes
  · contradiction
  · split at writes
    · exact .inl (Except.ok.inj writes).symm
    · split at writes
      · rename_i named
        split at writes
        · contradiction
        · exact .inr ⟨_, _, named, (Except.ok.inj writes).symm⟩
      · contradiction

theorem changes_of_diskWrite {handle : FileHandle} {file : DiskFile} {host changed : Host}
    {offset : UInt64} {data : Bytes} {count : Nat} (held : handle.file? = file.file)
    (writes : file.write host offset data = .ok (changed, count)) : handle.Changes host changed := by
  rw [DiskFile.write] at writes
  split at writes
  · contradiction
  · split at writes
    · contradiction
    · rename_i opened
      split at writes
      · contradiction
      · rename_i written
        cases writes
        refine (changes_of_writeAt written).imp_right fun ⟨id, contents, named, changed⟩ => ?_
        exact ⟨id, contents, by rw [held?, held, opened, Option.map_some, named], changed⟩

theorem changes_of_write {handle : FileHandle} {host changed : Host} {offset : UInt64} {data : Bytes}
    {count : Nat} (writes : handle.write host offset data = .ok (changed, count)) :
    handle.Changes host changed := by
  cases handle with
  | disk file => exact changes_of_diskWrite rfl writes
  | fixedSize file =>
      rw [write, FixedSizeFile.write] at writes
      split at writes
      · contradiction
      · split at writes
        · cases writes
          exact .inl rfl
        · exact changes_of_diskWrite rfl writes
  | image file =>
      cases writes
      exact .inl rfl

theorem changes_of_setSize {handle : FileHandle} {host changed : Host} {size : UInt64}
    (resizes : handle.setSize host size = some changed) : handle.Changes host changed := by
  cases handle with
  | disk file =>
      rw [setSize, DiskFile.setSize] at resizes
      split at resizes
      · contradiction
      · rename_i opened
        rw [Host.setSize] at resizes
        split at resizes
        · rename_i named
          split at resizes
          · contradiction
          · cases resizes
            exact .inr ⟨_, _, by rw [held?, file?, opened, Option.map_some, named], rfl⟩
        · contradiction
  | fixedSize file => cases resizes
  | image file => cases resizes

@[simp] theorem held?_read (handle : FileHandle) (host : Host) (offset : UInt64) (buffer : Bytes) :
    (handle.read host offset buffer).1.held? = handle.held? := by
  cases handle with
  | disk file => rfl
  | fixedSize file => rfl
  | image file =>
      have kept : (file.read host offset buffer).1.file = file.file := by
        rw [ImageFile.read]
        split
        · rfl
        · dsimp only
          split
          · rfl
          · rw [ImageFile.readRange]
            split <;> rfl
      simp only [held?, file?, read, kept]

@[simp] theorem held?_close (handle : FileHandle) : handle.close.1.held? = none := by
  cases handle <;> rfl

end FileHandle

namespace Mount

def Operation.namesRoot : Operation → Bool
  | openFile path _ | createFile path _ | deleteFile path | createDirectory path
  | deleteDirectory path | deleteDirectoryRecursively path | openDirectory path => path.isRoot
  | rename source target => source.isRoot || target.isRoot

variable {mount : Mount} {host changed : Host} {operation : Operation}
  {result : Except ResultCode Outcome}

theorem Leads.isRoot_eq_false {path : GuestPath} {location : Location}
    (leads : mount.Leads host path location) : path.isRoot = false := by
  obtain ⟨segments, parsed, nonempty, -⟩ := leads
  rw [GuestPath.isRoot, parsed]
  exact decide_eq_false fun root => nonempty (Option.some.inj root)

theorem Performed.changedBelow (performed : Performed mount host operation changed result) :
    ChangedBelow (host.site mount.mountPoint) host changed := by
  have still : ChangedBelow (host.site mount.mountPoint) host host := .unchanged
  cases performed with
  | refused | opened | listed | renamedToItself => exact still
  | openedNew leads => exact still.fileAdded leads.below
  | leftEmpty vacant => exact still.fileAdded vacant.leads.below
  | created vacant =>
      have added := still.fileAdded vacant.leads.below
      exact added.written ((OnlyInside.next _ host).transfer added.sameOutside) _
  | fileDeleted leads | directoryDeleted leads | treeDeleted leads => exact still.removed leads.below
  | directoryCreated leads => exact still.directoryAdded leads.below
  | renamed leadsSource leadsTarget => exact still.moved leadsSource.below leadsTarget.below
  | replaced leadsSource leadsTarget =>
      exact (still.removed leadsTarget.below).moved leadsSource.below leadsTarget.below

theorem Performed.eq_of_namesRoot (performed : Performed mount host operation changed result)
    (root : operation.namesRoot = true) : changed = host := by
  cases performed with
  | refused | opened | listed | renamedToItself => rfl
  | leftEmpty vacant | created vacant =>
      rw [Operation.namesRoot, vacant.leads.isRoot_eq_false] at root
      contradiction
  | openedNew leads | fileDeleted leads | directoryDeleted leads | treeDeleted leads
  | directoryCreated leads =>
      rw [Operation.namesRoot, leads.isRoot_eq_false] at root
      contradiction
  | renamed leadsSource leadsTarget | replaced leadsSource leadsTarget =>
      rw [Operation.namesRoot, leadsSource.isRoot_eq_false, leadsTarget.isRoot_eq_false] at root
      contradiction

theorem Performed.onlyInside {handle : FileHandle} {id : Nat}
    (performed : Performed mount host operation changed (.ok (.file handle)))
    (holds : handle.held? = some (.file id)) :
    OnlyInside (host.site mount.mountPoint) changed id := by
  have same := performed.changedBelow.sameOutside
  cases performed with
  | opened leads stands held =>
      rw [held] at holds
      cases holds
      exact .of_find? leads.below stands
  | openedNew leads free held =>
      rw [held] at holds
      cases holds
      exact (OnlyInside.next _ host).transfer same

theorem Performed.stored {handle : FileHandle} {id : Nat}
    (performed : Performed mount host operation changed (.ok (.file handle)))
    (holds : handle.held? = some (.file id)) : id < changed.files.length := by
  cases performed with
  | opened _ stands held =>
      rw [held] at holds
      cases holds
      exact host.stored id (Tree.mem_fileIds_of_find? stands)
  | openedNew _ _ held =>
      rw [held] at holds
      cases holds
      simp [Host.addFile]

end Mount

structure Session where
  host : Host
  handles : List FileHandle
  listings : List Listing

namespace Session

inductive Action
  | perform (operation : Mount.Operation)
  | read (handle : Nat) (offset : UInt64) (buffer : Bytes)
  | write (handle : Nat) (offset : UInt64) (data : Bytes)
  | resize (handle : Nat) (size : UInt64)
  | close (handle : Nat)
  | list (listing : Nat) (count : UInt64)
  deriving DecidableEq, Repr

def ofHost (host : Host) : Session := ⟨host, [], []⟩

def receive (session : Session) : Host × Except ResultCode Mount.Outcome → Session
  | (host, .ok (.file handle)) => { session with host, handles := session.handles ++ [handle] }
  | (host, .ok (.listing listing)) => { session with host, listings := session.listings ++ [listing] }
  | (host, .ok .done) | (host, .error _) => { session with host }

def act (mount : Mount) (session : Session) : Action → Session
  | .perform operation => session.receive (mount.perform session.host operation)
  | .read index offset buffer =>
    throughHandle session.handles index session fun handle =>
      { session with handles := session.handles.set index (handle.read session.host offset buffer).1 }
  | .write index offset data =>
    throughHandle session.handles index session fun handle =>
      match handle.write session.host offset data with
      | .error _ => session
      | .ok (host, _) => { session with host }
  | .resize index size =>
    throughHandle session.handles index session fun handle =>
      match handle.setSize session.host size with
      | none => session
      | some host => { session with host }
  | .close index =>
    throughHandle session.handles index session fun handle =>
      { session with handles := session.handles.set index handle.close.1 }
  | .list index count =>
    throughHandle session.listings index session fun listing =>
      match listing.read count with
      | none => session
      | some (_, next) => { session with listings := session.listings.set index next }

def run (mount : Mount) (session : Session) (actions : List Action) : Session :=
  actions.foldl (act mount) session

/-- The host was only changed below the place, and no file that is open is one outside it. -/
structure Confined (site : Location) (origin : Host) (session : Session) : Prop where
  changed : ChangedBelow site origin session.host
  handles : ∀ handle ∈ session.handles, ∀ id,
    handle.held? = some (.file id) → OnlyInside site session.host id

namespace Confined

variable {site : Location} {origin : Host} {session : Session}

theorem ofHost (site : Location) (host : Host) : Confined site host (Session.ofHost host) :=
  ⟨.unchanged, fun _ member => nomatch member⟩

theorem withHost (confined : Confined site origin session) {host : Host}
    (changed : ChangedBelow site session.host host) :
    Confined site origin { session with host } where
  changed := confined.changed.trans changed
  handles handle member id holds :=
    (confined.handles handle member id holds).transfer changed.sameOutside

theorem set (confined : Confined site origin session) (index : Nat) {handle : FileHandle}
    (holds : ∀ id, handle.held? = some (.file id) → OnlyInside site session.host id) :
    Confined site origin { session with handles := session.handles.set index handle } :=
  ⟨confined.changed, forall_mem_set confined.handles holds⟩

theorem withChanges (confined : Confined site origin session) {handle : FileHandle} {host : Host}
    (member : handle ∈ session.handles) (changes : handle.Changes session.host host) :
    Confined site origin { session with host } := by
  rcases changes with rfl | ⟨id, contents, holds, rfl⟩
  · exact confined
  · have inside := confined.handles handle member id holds
    exact confined.withHost (ChangedBelow.unchanged.written inside contents)

theorem received {mount : Mount} {operation : Mount.Operation} {host : Host}
    {result : Except ResultCode Mount.Outcome}
    (confined : Confined (session.host.site mount.mountPoint) origin session)
    (performed : Mount.Performed mount session.host operation host result) :
    Confined (session.host.site mount.mountPoint) origin (session.receive (host, result)) := by
  have next := confined.withHost performed.changedBelow
  match result with
  | .error _ => exact next
  | .ok .done => exact next
  | .ok (.listing _) => exact ⟨next.changed, next.handles⟩
  | .ok (.file handle) =>
      have inside (id : Nat) (holds : handle.held? = some (.file id)) := performed.onlyInside holds
      exact ⟨next.changed, List.forall_mem_append.mpr ⟨next.handles, List.forall_mem_singleton.mpr inside⟩⟩

theorem act {mount : Mount} (confined : Confined (origin.site mount.mountPoint) origin session)
    (action : Action) :
    Confined (origin.site mount.mountPoint) origin (session.act mount action) := by
  cases action with
  | perform operation =>
      rw [← confined.changed.sameOutside.site_eq] at confined ⊢
      exact confined.received (mount.perform_performed session.host operation)
  | read index offset buffer =>
      refine throughHandle_cases confined fun handle found => confined.set index ?_
      simpa using confined.handles handle (List.mem_of_getElem? found)
  | write index offset data =>
      refine throughHandle_cases confined fun handle found => ?_
      split
      · exact confined
      · exact confined.withChanges (List.mem_of_getElem? found) (FileHandle.changes_of_write ‹_›)
  | resize index size =>
      refine throughHandle_cases confined fun handle found => ?_
      split
      · exact confined
      · exact confined.withChanges (List.mem_of_getElem? found) (FileHandle.changes_of_setSize ‹_›)
  | close index =>
      refine throughHandle_cases confined fun handle _ => confined.set index ?_
      simp
  | list index count =>
      refine throughHandle_cases confined fun listing _ => ?_
      split
      · exact confined
      · exact ⟨confined.changed, confined.handles⟩

theorem run {mount : Mount} (confined : Confined (origin.site mount.mountPoint) origin session)
    (actions : List Action) :
    Confined (origin.site mount.mountPoint) origin (session.run mount actions) := by
  induction actions generalizing session with
  | nil => exact confined
  | cons action rest ih => exact ih (confined.act action)

end Confined

/-- After every run, all that was changed lies strictly below the mount point; what does not stands as it
stood, with what it held. An operation that names the root leaves the whole host alone. -/
theorem run_changedBelow (mount : Mount) (host : Host) (actions : List Action) :
    ChangedBelow (host.site mount.mountPoint) host ((ofHost host).run mount actions).host ∧
      SameOutside (host.site mount.mountPoint) host ((ofHost host).run mount actions).host ∧
      ∀ operation : Mount.Operation, operation.namesRoot = true →
        (mount.perform ((ofHost host).run mount actions).host operation).1 =
          ((ofHost host).run mount actions).host := by
  have confined := (Confined.ofHost (host.site mount.mountPoint) host).run actions
  exact ⟨confined.changed, confined.changed.sameOutside,
    fun operation root => (mount.perform_performed _ operation).eq_of_namesRoot root⟩

def sharedHost : Host := ((Host.empty []).addDirectory ["card"]).addFile ["config"]

def escapes : List Action :=
  [.perform (.createFile (.char "/a") 3), .perform (.openFile (.char "/a") .readWrite), .write 0 1 [7],
    .perform (.rename (.char "/a") (.char "/../config")), .perform (.rename (.char "/a") (.char "/")),
    .perform (.deleteFile (.char "/../config")), .perform (.deleteDirectoryRecursively (.char "/"))]

theorem run_changedBelow_card :
    ((ofHost sharedHost).run ⟨.sdCard, .ofString "/card"⟩ escapes).host.tree.find? ["config"] =
        some (.file 0) ∧
      (Mount.perform ⟨.sdCard, .ofString "/card"⟩
          ((ofHost sharedHost).run ⟨.sdCard, .ofString "/card"⟩ escapes).host
          (.rename (.char "/") (.char "/b"))).1 =
        ((ofHost sharedHost).run ⟨.sdCard, .ofString "/card"⟩ escapes).host := by
  have confined := run_changedBelow ⟨.sdCard, .ofString "/card"⟩ sharedHost escapes
  have beside : ¬ StrictlyBelow (sharedHost.site (.ofString "/card")) ["config"] := by
    rw [show sharedHost.site (.ofString "/card") = ["card"] by decide +kernel]
    rintro ⟨rest, -, whole⟩
    simp at whole
  exact ⟨(confined.2.1.entries _ beside).trans rfl, confined.2.2 _ (by decide +kernel)⟩

end Session

end GuestStorage
