import GuestStorage.Proofs.Archive.SharedFile

namespace GuestStorage

theorem Contents.toBytes_write_inside {contents : Contents} {offset : Nat} {data : Bytes}
    (inside : offset + data.length ≤ contents.size) :
    (contents.write offset data).toBytes =
      contents.toBytes.take offset ++ data ++ contents.toBytes.drop (offset + data.length) := by
  rw [toBytes_write, Bytes.overwrite]
  split
  · simp [*]
  · have exact : offset - contents.size = 0 := by omega
    simp [Bytes.fit, exact]

theorem Contents.size_write_inside {contents : Contents} {offset : Nat} {data : Bytes}
    (inside : offset + data.length ≤ contents.size) :
    (contents.write offset data).size = contents.size := by
  by_cases empty : data = []
  · simp [write, empty]
  · simp [empty, Nat.max_eq_left inside]

namespace FileHandle

def fixedOn (id length : Nat) (isOpen : Bool) : FileHandle :=
  .fixedSize ⟨SharedHandle.diskFile id ⟨.readWrite, isOpen⟩, length⟩

variable {host : Host} {id : Nat}

theorem write_fixedOn (stored : id < host.files.length)
    (bounded : (host.contents id).size < Medium.limit) (offset : UInt64) (data : Bytes) :
    (fixedOn id (host.contents id).size true).write host offset data =
      if (host.contents id).size < offset.toNat then .error .writeBeyondEnd
      else .ok (host.setContents id ((host.contents id).write offset.toNat
          (data.take ((host.contents id).size - offset.toNat))),
        min ((host.contents id).size - offset.toNat) data.length) := by
  rw [fixedOn, write, FixedSizeFile.write]
  by_cases past : (host.contents id).size < offset.toNat
  · rw [if_pos past, if_pos past]
  · rw [if_neg past, if_neg past]
    by_cases atEnd : offset.toNat = (host.contents id).size
    · rw [if_pos atEnd, atEnd, Nat.sub_self, List.take_zero, Nat.zero_min, Contents.write, if_pos rfl,
        Host.setContents_contents stored]
    · have count : (data.take ((host.contents id).size - offset.toNat)).length =
          min ((host.contents id).size - offset.toNat) data.length := List.length_take
      have reaches : SharedFile.Reaches offset (data.take ((host.contents id).size - offset.toNat)) :=
        ⟨by omega, .inr (by omega)⟩
      rw [if_neg atEnd, SharedHandle.write_diskFile stored, if_neg (by decide), if_pos ⟨rfl, reaches⟩, count]

theorem sameSize_of_write {isOpen : Bool} (stored : id < host.files.length)
    (bounded : (host.contents id).size < Medium.limit) {offset : UInt64} {data : Bytes} {changed : Host}
    {count : Nat}
    (writes : (fixedOn id (host.contents id).size isOpen).write host offset data = .ok (changed, count)) :
    ∃ contents, changed = host.setContents id contents ∧ contents.size = (host.contents id).size := by
  cases isOpen with
  | true =>
      rw [write_fixedOn stored bounded] at writes
      split at writes
      · cases writes
      · cases writes
        refine ⟨_, rfl, Contents.size_write_inside ?_⟩
        rw [List.length_take]
        omega
  | false =>
      refine ⟨host.contents id, ?_, rfl⟩
      rw [Host.setContents_contents stored]
      rw [fixedOn, write, FixedSizeFile.write] at writes
      split at writes
      · cases writes
      · split at writes
        · cases writes
          rfl
        · rw [SharedHandle.write_diskFile stored] at writes
          cases writes

end FileHandle

namespace FileSession

structure Fixed (mountPoint : HostPath) (path : GuestPath) (segments : List String) (id length : Nat)
    (session : FileSession) : Prop where
  leads : Mount.LeadsToFile ⟨.extSaveData, mountPoint⟩ session.host path segments id
  size : (session.host.contents id).size = length
  handles : ∀ handle ∈ session.handles, ∃ isOpen, handle = .fixedOn id length isOpen

/-- What can be done with the file at one moment of a session. -/
structure KeepsSize (mountPoint : HostPath) (path : GuestPath) (segments : List String) (id length : Nat)
    (session : FileSession) : Prop where
  file : session.host.entryAt? (mountPoint.descendant segments) = some (.file id)
  size : (session.host.contents id).size = length
  opens : ∀ mode, MountKind.extSaveData.accepts mode = true → ∃ handle,
    Mount.openFile ⟨.extSaveData, mountPoint⟩ session.host path mode = (session.host, .ok handle) ∧
      handle.held? = some (.file id)
  resizes : ∀ handle ∈ session.handles, ∀ size, handle.setSize session.host size = none
  writesBeyond : ∀ handle ∈ session.handles, handle.held? ≠ none → ∀ offset data,
    length < offset.toNat → handle.write session.host offset data = .error .writeBeyondEnd
  writes : ∀ handle ∈ session.handles, handle.held? ≠ none → ∀ offset data, offset.toNat ≤ length →
    ∃ contents, handle.write session.host offset data =
        .ok (session.host.setContents id contents, min (length - offset.toNat) data.length) ∧
      contents.toBytes = (session.host.contents id).toBytes.take offset.toNat ++
        data.take (length - offset.toNat) ++
        (session.host.contents id).toBytes.drop
          (offset.toNat + min (length - offset.toNat) data.length)

namespace Fixed

variable {mountPoint : HostPath} {path : GuestPath} {segments : List String} {id length : Nat}
  {session : FileSession}

theorem through (fixed : Fixed mountPoint path segments id length session) {index : Nat}
    {act : FileHandle → FileSession × FileAnswer}
    (acts : ∀ isOpen, .fixedOn id length isOpen ∈ session.handles →
      Fixed mountPoint path segments id length (act (.fixedOn id length isOpen)).1) :
    Fixed mountPoint path segments id length
      (throughHandle session.handles index (session, .noHandle) act).1 := by
  refine throughHandle_cases
    (motive := fun outcome : FileSession × FileAnswer => Fixed mountPoint path segments id length outcome.1) fixed
    fun handle found => ?_
  have member := List.mem_of_getElem? found
  obtain ⟨isOpen, rfl⟩ := fixed.handles handle member
  exact acts isOpen member

theorem set (fixed : Fixed mountPoint path segments id length session) (index : Nat) (isOpen : Bool) :
    Fixed mountPoint path segments id length
      { session with handles := session.handles.set index (.fixedOn id length isOpen) } :=
  ⟨fixed.leads, fixed.size, forall_mem_set fixed.handles ⟨isOpen, rfl⟩⟩

theorem openFile (fixed : Fixed mountPoint path segments id length session) {mode : OpenMode}
    (accepted : MountKind.extSaveData.accepts mode = true) :
    Mount.openFile ⟨.extSaveData, mountPoint⟩ session.host path mode =
      (session.host, .ok (.fixedOn id length true)) := by
  have effective : MountKind.extSaveData.effectiveMode mode = mode := rfl
  rw [fixed.leads.openFile (by simp), effective, if_pos accepted]
  simp only [Mount.handleAt, if_true, fixed.leads.openHostFile, FixedSizeFile.ofDiskFile, DiskFile.size,
    Host.medium, Medium.size, fixed.size]
  rfl

theorem act (fixed : Fixed mountPoint path segments id length session) (bounded : length < Medium.limit)
    (request : FileRequest) :
    Fixed mountPoint path segments id length
      (session.act ⟨.extSaveData, mountPoint⟩ path request).1 := by
  cases request with
  | openWith mode =>
      rw [FileSession.act]
      cases accepted : MountKind.extSaveData.accepts mode with
      | true =>
          rw [fixed.openFile accepted]
          exact ⟨fixed.leads, fixed.size,
            List.forall_mem_append.mpr ⟨fixed.handles, List.forall_mem_singleton.mpr ⟨true, rfl⟩⟩⟩
      | false =>
          have effective : MountKind.extSaveData.effectiveMode mode = mode := rfl
          rw [fixed.leads.openFile (by simp), effective, accepted]
          exact ⟨fixed.leads, fixed.size, fixed.handles⟩
  | read index offset buffer => exact fixed.through fun isOpen _ => fixed.set index isOpen
  | write index offset data =>
      refine fixed.through fun isOpen _ => ?_
      split
      · exact fixed
      · rename_i writes
        rw [← fixed.size] at writes bounded
        obtain ⟨contents, rfl, size⟩ :=
          FileHandle.sameSize_of_write fixed.leads.stored bounded writes
        refine ⟨fixed.leads.setContents id contents, ?_, fixed.handles⟩
        rw [Host.contents_setContents_self fixed.leads.stored, size, fixed.size]
  | resize index size => exact fixed.through fun isOpen _ => fixed
  | flush index => exact fixed.through fun isOpen _ => fixed
  | close index => exact fixed.through fun isOpen _ => fixed.set index false
  | size index => exact fixed.through fun isOpen _ => fixed

theorem run (fixed : Fixed mountPoint path segments id length session) (bounded : length < Medium.limit)
    (requests : List FileRequest) :
    Fixed mountPoint path segments id length
      (session.run ⟨.extSaveData, mountPoint⟩ path requests).1 := by
  induction requests generalizing session with
  | nil => exact fixed
  | cons request rest ih => exact ih (fixed.act bounded request)

theorem held?_fixedOn {isOpen : Bool} (opened : (FileHandle.fixedOn id length isOpen).held? ≠ none) :
    isOpen = true := by
  cases isOpen with
  | true => rfl
  | false => exact absurd rfl opened

theorem keepsSize (fixed : Fixed mountPoint path segments id length session)
    (bounded : length < Medium.limit) : KeepsSize mountPoint path segments id length session where
  file := by
    rw [Host.entryAt?_eq_some_iff, fixed.leads.lookup, fixed.leads.addressed.site_eq]
  size := fixed.size
  opens mode accepted := ⟨_, fixed.openFile accepted, rfl⟩
  resizes handle member size := by
    obtain ⟨isOpen, rfl⟩ := fixed.handles handle member
    rfl
  writesBeyond handle member opened offset data past := by
    obtain ⟨isOpen, rfl⟩ := fixed.handles handle member
    obtain rfl := held?_fixedOn opened
    rw [← fixed.size] at past bounded ⊢
    rw [FileHandle.write_fixedOn fixed.leads.stored bounded, if_pos past]
  writes handle member opened offset data inside := by
    obtain ⟨isOpen, rfl⟩ := fixed.handles handle member
    obtain rfl := held?_fixedOn opened
    rw [← fixed.size] at inside bounded ⊢
    rw [FileHandle.write_fixedOn fixed.leads.stored bounded, if_neg (Nat.not_lt.mpr inside)]
    refine ⟨_, rfl, ?_⟩
    rw [Contents.toBytes_write_inside, List.length_take]
    rw [List.length_take]
    omega

end Fixed

/-- Whatever is done through handles of an extended save data archive, the file that they are on stays as
long as it was. -/
theorem run_extSaveData_fixed {host : Host} {mountPoint : HostPath} {path : GuestPath}
    {segments : List String} {id : Nat} (directory : host.isDirectory mountPoint = true)
    (parsed : path.segments? = some segments)
    (file : host.entryAt? (mountPoint.descendant segments) = some (.file id))
    (bounded : (host.contents id).size < Medium.limit) (requests : List FileRequest) :
    KeepsSize mountPoint path segments id (host.contents id).size
      ((ofHost host).run ⟨.extSaveData, mountPoint⟩ path requests).1 := by
  have addressed := Host.Addressed.of_entryAt? directory parsed file
  have stands : host.tree.find? (host.site mountPoint ++ segments) = some (.file id) := by
    rw [← addressed.entryAt?_descendant, file]
  have fixed : Fixed mountPoint path segments id (host.contents id).size (ofHost host) :=
    ⟨⟨parsed, addressed, stands⟩, rfl, nofun⟩
  exact (fixed.run bounded requests).keepsSize bounded

def extendedHost : Host :=
  (((Host.empty []).addDirectory ["user"]).addFile ["user", "f"]).setContents 0 (.ofBytes [1, 2, 3])

theorem run_extSaveData_fixed_pastEnd :
    ((ofHost extendedHost).run ⟨.extSaveData, .ofString "/user"⟩ (.char "/f")
        [.openWith .readWrite, .openWith .readOnly, .write 0 0 [6], .write 1 2 [7, 8]]).2 =
      [.opened (.ok ()), .opened (.ok ()), .written (.ok 1), .written (.ok 1)] ∧
    KeepsSize (.ofString "/user") (.char "/f") ["f"] 0 3
      ((ofHost extendedHost).run ⟨.extSaveData, .ofString "/user"⟩ (.char "/f")
        [.openWith .readWrite, .openWith .readOnly, .write 0 0 [6], .write 1 2 [7, 8]]).1 := by
  have keeps := run_extSaveData_fixed
    (show extendedHost.isDirectory (.ofString "/user") = true by decide +kernel)
    (show GuestPath.segments? (.char "/f") = some ["f"] by decide +kernel)
    (show extendedHost.entryAt? ((HostPath.ofString "/user").descendant ["f"]) = some (.file 0) by
      decide +kernel)
    (show (extendedHost.contents 0).size < Medium.limit by decide +kernel)
    [.openWith .readWrite, .openWith .readOnly, .write 0 0 [6], .write 1 2 [7, 8]]
  exact ⟨rfl, keeps⟩

end FileSession

end GuestStorage
