import GuestStorage.Proofs.Archive.FileSessions

namespace GuestStorage

structure SharedHandle where
  mode : OpenMode
  isOpen : Bool
  deriving DecidableEq, Repr

structure SharedFile where
  bytes : Bytes
  handles : List SharedHandle
  deriving DecidableEq, Repr

namespace SharedFile

def ofZeros (size : Nat) : SharedFile := ⟨List.replicate size 0, []⟩

/-- The host can seek to the offset, and has a position for every byte behind it. -/
def Reaches (offset : UInt64) (data : Bytes) : Prop :=
  offset.toNat < Medium.limit ∧ (data = [] ∨ offset.toNat + data.length < Medium.limit)

instance (offset : UInt64) (data : Bytes) : Decidable (Reaches offset data) :=
  inferInstanceAs (Decidable (_ ∧ _))

def act (kind : MountKind) (file : SharedFile) : FileRequest → SharedFile × FileAnswer
  | .openWith mode =>
    if kind.accepts (kind.effectiveMode mode) then
      ({ file with handles := file.handles ++ [⟨kind.effectiveMode mode, true⟩] }, .opened (.ok ()))
    else (file, .opened (.error kind.family.badMode))
  | .read index offset buffer =>
    throughHandle file.handles index (file, .noHandle) fun handle =>
      if handle.isOpen ∧ offset.toNat < Medium.limit then
        let data := Bytes.slice file.bytes offset.toNat buffer.length
        (file, .read (data ++ buffer.drop data.length) (.ok data.length))
      else (file, .read buffer (.error .operationCanceled))
  | .write index offset data =>
    throughHandle file.handles index (file, .noHandle) fun handle =>
      if !handle.mode.write then (file, .written (.error .invalidOpenFlags))
      else if handle.isOpen ∧ Reaches offset data then
        ({ file with bytes := Bytes.overwrite file.bytes offset.toNat data }, .written (.ok data.length))
      else (file, .written (.error .operationCanceled))
  | .resize index size =>
    throughHandle file.handles index (file, .noHandle) fun handle =>
      if handle.isOpen ∧ handle.mode.write ∧ size.toNat < Medium.limit then
        ({ file with bytes := Bytes.fit size.toNat file.bytes }, .resized true)
      else (file, .resized false)
  | .flush index => throughHandle file.handles index (file, .noHandle) fun _ => (file, .flushed)
  | .close index =>
    throughHandle file.handles index (file, .noHandle) fun handle =>
      ({ file with handles := file.handles.set index { handle with isOpen := false } },
        .closed handle.isOpen)
  | .size index =>
    throughHandle file.handles index (file, .noHandle) fun handle =>
      (file, .size (if handle.isOpen then file.bytes.length else 0))

def run (kind : MountKind) (file : SharedFile) : List FileRequest → SharedFile × List FileAnswer
  | [] => (file, [])
  | request :: rest =>
    let (next, answer) := file.act kind request
    let (last, answers) := next.run kind rest
    (last, answer :: answers)

end SharedFile

namespace SharedHandle

def diskFile (id : Nat) (handle : SharedHandle) : DiskFile :=
  ⟨if handle.isOpen then some ⟨.file id, handle.mode.write⟩ else none, handle.mode⟩

variable {host : Host} {id : Nat} {handle : SharedHandle}

theorem read_diskFile (readable : (handle.mode.read || handle.mode.write) = true) (offset : UInt64)
    (length : Nat) :
    (handle.diskFile id).read host offset length =
      if handle.isOpen ∧ offset.toNat < Medium.limit then
        .ok (Bytes.slice (host.contents id).toBytes offset.toNat length)
      else .error .operationCanceled := by
  have readable : (!handle.mode.read && !handle.mode.write) = false := by
    rw [← Bool.not_or, readable, Bool.not_true]
  rw [DiskFile.read, diskFile, readable]
  cases handle.isOpen with
  | false => rfl
  | true =>
      by_cases beyond : Medium.limit ≤ offset.toNat
      · simp [Medium.readAt, beyond, Nat.not_lt.mpr beyond]
      · simp [Host.medium, Medium.readAt, beyond, Nat.lt_of_not_le beyond, Contents.read_eq_slice]

theorem write_diskFile (stored : id < host.files.length) (offset : UInt64) (data : Bytes) :
    (handle.diskFile id).write host offset data =
      if !handle.mode.write then .error .invalidOpenFlags
      else if handle.isOpen ∧ SharedFile.Reaches offset data then
        .ok (host.setContents id ((host.contents id).write offset.toNat data), data.length)
      else .error .operationCanceled := by
  rw [DiskFile.write, diskFile]
  cases writable : handle.mode.write with
  | false => rfl
  | true =>
      cases handle.isOpen with
      | false => rfl
      | true =>
          simp only [SharedFile.Reaches, Host.writeAt, if_true, Bool.not_true, Bool.false_eq_true, if_false,
            true_and]
          by_cases beyond : Medium.limit ≤ offset.toNat
          · simp only [if_pos beyond, Nat.not_lt.mpr beyond, false_and, if_false]
          · simp only [if_neg beyond, Nat.lt_of_not_le beyond, true_and]
            by_cases empty : data = []
            · rw [if_pos empty, if_pos (.inl empty), Contents.write, if_pos empty,
                Host.setContents_contents stored]
            · by_cases far : Medium.limit ≤ offset.toNat + data.length
              · simp only [if_pos far, empty, Nat.not_lt.mpr far, or_self, if_false]
              · simp only [if_neg empty, if_neg far, Nat.lt_of_not_le far, or_true, if_true]

theorem setSize_diskFile (size : UInt64) :
    (handle.diskFile id).setSize host size =
      if handle.isOpen ∧ handle.mode.write ∧ size.toNat < Medium.limit then
        some (host.setContents id ((host.contents id).resize size.toNat))
      else none := by
  rw [DiskFile.setSize, diskFile]
  cases handle.isOpen with
  | false => rfl
  | true =>
      cases handle.mode.write with
      | false => rfl
      | true =>
          by_cases large : Medium.limit ≤ size.toNat
          · simp only [if_true, Host.setSize, if_pos large, Nat.not_lt.mpr large, and_false, if_false]
            rfl
          · simp only [if_true, Host.setSize, if_neg large, Nat.lt_of_not_le large, and_self]
            rfl

theorem size_diskFile :
    (handle.diskFile id).size host = if handle.isOpen then (host.contents id).toBytes.length else 0 := by
  rw [DiskFile.size, diskFile]
  cases handle.isOpen with
  | false => rfl
  | true => exact (Contents.length_toBytes _).symm

end SharedHandle

/-- The session of an archive and the array show the same: they hold the same bytes, and their handles
belong to one another. -/
structure Mount.Represents (mount : Mount) (path : GuestPath) (segments : List String) (id : Nat)
    (session : FileSession) (file : SharedFile) : Prop where
  leads : mount.LeadsToFile session.host path segments id
  bytes : (session.host.contents id).toBytes = file.bytes
  handles : session.handles = file.handles.map fun handle => .disk (handle.diskFile id)
  readable : ∀ handle ∈ file.handles, (handle.mode.read || handle.mode.write) = true

structure Mount.RepresentsAfter (mount : Mount) (path : GuestPath) (segments : List String) (id : Nat)
    (concrete : FileSession × FileAnswer) (abstract : SharedFile × FileAnswer) : Prop where
  represents : mount.Represents path segments id concrete.1 abstract.1
  answer : concrete.2 = abstract.2

namespace Mount.Represents

variable {mount : Mount} {path : GuestPath} {segments : List String} {id : Nat} {session : FileSession}
  {file : SharedFile}

theorem through (represents : mount.Represents path segments id session file) {index : Nat}
    {act : FileHandle → FileSession × FileAnswer} {shared : SharedHandle → SharedFile × FileAnswer}
    (acts : ∀ handle, file.handles[index]? = some handle →
      mount.RepresentsAfter path segments id (act (.disk (handle.diskFile id))) (shared handle)) :
    mount.RepresentsAfter path segments id (throughHandle session.handles index (session, .noHandle) act)
      (throughHandle file.handles index (file, .noHandle) shared) := by
  rw [throughHandle, throughHandle, represents.handles, List.getElem?_map]
  cases found : file.handles[index]? with
  | none => exact ⟨represents, rfl⟩
  | some handle => exact acts handle found

theorem set (represents : mount.Represents path segments id session file) (index : Nat)
    (handle : SharedHandle) (readable : (handle.mode.read || handle.mode.write) = true) :
    mount.Represents path segments id
      { session with handles := session.handles.set index (.disk (handle.diskFile id)) }
      { file with handles := file.handles.set index handle } where
  leads := represents.leads
  bytes := represents.bytes
  handles := by rw [represents.handles, List.map_set]
  readable := forall_mem_set represents.readable readable

theorem setContents (represents : mount.Represents path segments id session file) {contents : Contents}
    {bytes : Bytes} (holds : contents.toBytes = bytes) :
    mount.Represents path segments id { session with host := session.host.setContents id contents }
      { file with bytes } where
  leads := represents.leads.setContents id contents
  bytes := by simp [represents.leads.stored, holds]
  handles := represents.handles
  readable := represents.readable

theorem readable_of_accepts {kind : MountKind} {mode : OpenMode} (accepted : kind.accepts mode = true) :
    (mode.read || mode.write) = true := by
  obtain ⟨read, write, create⟩ := mode
  cases read <;> cases write <;> cases create <;> simp_all [MountKind.accepts, OpenMode.isEmpty]

theorem openWith (represents : mount.Represents path segments id session file)
    (shares : mount.kind = .disk ∨ mount.kind = .sdCard ∨ mount.kind = .saveData) (mode : OpenMode) :
    mount.RepresentsAfter path segments id (session.act mount path (.openWith mode))
      (file.act mount.kind (.openWith mode)) := by
  have readable : mount.kind ≠ .sdCardWriteOnly := by rcases shares with kind | kind | kind <;> simp [kind]
  have growing : mount.kind ≠ .extSaveData := by rcases shares with kind | kind | kind <;> simp [kind]
  simp only [FileSession.act, SharedFile.act, represents.leads.openFile readable mode]
  cases accepted : mount.kind.accepts (mount.kind.effectiveMode mode) with
  | false => exact ⟨represents, rfl⟩
  | true =>
      simp only [if_true, handleAt, growing, if_false, represents.leads.openHostFile]
      refine ⟨⟨represents.leads, represents.bytes, ?_, List.forall_mem_append.mpr ⟨represents.readable, ?_⟩⟩, rfl⟩
      · rw [represents.handles, List.map_append]
        rfl
      · exact List.forall_mem_singleton.mpr (readable_of_accepts accepted)

theorem act (represents : mount.Represents path segments id session file)
    (shares : mount.kind = .disk ∨ mount.kind = .sdCard ∨ mount.kind = .saveData) (request : FileRequest) :
    mount.RepresentsAfter path segments id (session.act mount path request)
      (file.act mount.kind request) := by
  cases request with
  | openWith mode => exact represents.openWith shares mode
  | read index offset buffer =>
      refine represents.through fun handle found => ?_
      have readable := represents.readable handle (List.mem_of_getElem? found)
      have kept := represents.set index handle readable
      have same : file.handles.set index handle = file.handles := by
        obtain ⟨inside, rfl⟩ := List.getElem?_eq_some_iff.mp found
        exact List.set_getElem_self inside
      rw [same] at kept
      simp only [FileHandle.read, SharedHandle.read_diskFile readable, represents.bytes]
      by_cases reads : handle.isOpen = true ∧ offset.toNat < Medium.limit
      · rw [if_pos reads, if_pos reads]
        exact ⟨kept, rfl⟩
      · rw [if_neg reads, if_neg reads]
        exact ⟨kept, rfl⟩
  | write index offset data =>
      refine represents.through fun handle found => ?_
      simp only [FileHandle.write, SharedHandle.write_diskFile represents.leads.stored]
      by_cases writable : (!handle.mode.write) = true
      · rw [if_pos writable, if_pos writable]
        exact ⟨represents, rfl⟩
      · rw [if_neg writable, if_neg writable]
        by_cases reaches : handle.isOpen = true ∧ SharedFile.Reaches offset data
        · rw [if_pos reaches, if_pos reaches]
          refine ⟨represents.setContents ?_, rfl⟩
          simp [represents.bytes]
        · rw [if_neg reaches, if_neg reaches]
          exact ⟨represents, rfl⟩
  | resize index size =>
      refine represents.through fun handle found => ?_
      simp only [FileHandle.setSize, SharedHandle.setSize_diskFile]
      by_cases resizes : handle.isOpen = true ∧ handle.mode.write = true ∧ size.toNat < Medium.limit
      · rw [if_pos resizes, if_pos resizes]
        refine ⟨represents.setContents ?_, rfl⟩
        simp [represents.bytes]
      · rw [if_neg resizes, if_neg resizes]
        exact ⟨represents, rfl⟩
  | flush index => exact represents.through fun handle found => ⟨represents, rfl⟩
  | close index =>
      refine represents.through fun handle found => ⟨?_, ?_⟩
      · exact represents.set index { handle with isOpen := false }
          (represents.readable handle (List.mem_of_getElem? found))
      · simp only [FileHandle.close, SharedHandle.diskFile]
        cases handle.isOpen <;> rfl
  | size index =>
      refine represents.through fun handle found => ⟨represents, ?_⟩
      simp only [FileHandle.size, SharedHandle.size_diskFile, represents.bytes]

theorem run (represents : mount.Represents path segments id session file)
    (shares : mount.kind = .disk ∨ mount.kind = .sdCard ∨ mount.kind = .saveData)
    (requests : List FileRequest) :
    mount.Represents path segments id (session.run mount path requests).1 (file.run mount.kind requests).1 ∧
      (session.run mount path requests).2 = (file.run mount.kind requests).2 := by
  induction requests generalizing session file with
  | nil => exact ⟨represents, rfl⟩
  | cons request rest ih =>
      have after := represents.act shares request
      obtain ⟨last, answers⟩ := ih after.represents
      exact ⟨last, List.cons_eq_cons.mpr ⟨after.answer, answers⟩⟩

end Mount.Represents

namespace Mount

theorem represents_created {mount : Mount} {host : Host} {path : GuestPath} {segments : List String}
    (parsed : path.segments? = some segments) (addressed : host.Addressed mount.mountPoint segments)
    (vacant : host.tree.Vacant (host.site mount.mountPoint ++ segments)) (size : Nat) :
    mount.Represents path segments host.files.length
      (.ofHost ((host.addFile (host.site mount.mountPoint ++ segments)).setContents host.files.length
        (.zeros size)))
      (.ofZeros size) where
  leads := by
    have added := Host.entryAdded_addFile vacant
    refine LeadsToFile.setContents ⟨parsed, addressed.of_kept (added.keepsDirectories vacant.absent) rfl, ?_⟩ _ _
    exact (added.entries _).trans (if_pos rfl)
  bytes := by
    simp [FileSession.ofHost, SharedFile.ofZeros]
  handles := rfl
  readable := nofun

/-- Where a file is missing it can be created, of any size that the host can hold. From then on every session
on it gives the answers of one array of zeros that all handles share, and the host file holds that array. -/
theorem run_created_eq_shared {kind : MountKind} (shares : kind = .disk ∨ kind = .sdCard ∨ kind = .saveData)
    {host : Host} {mountPoint : HostPath} {path : GuestPath} {segments : List String}
    (parsed : path.segments? = some segments) (missing : host.status mountPoint segments = .notFound)
    (short : ∀ segment ∈ segments, segment.utf8ByteSize ≤ Host.maxNameLength)
    (unterminated : ∀ segment ∈ segments, '\x00' ∉ segment.toList) {size : UInt64}
    (fits : size.toNat < Medium.limit) :
    ∃ created id, createFile ⟨kind, mountPoint⟩ host path size = (created, .ok ()) ∧
      ∀ requests session answers,
        (FileSession.ofHost created).run ⟨kind, mountPoint⟩ path requests = (session, answers) →
          answers = ((SharedFile.ofZeros size.toNat).run kind requests).2 ∧
            session.host.entryAt? (mountPoint.descendant segments) = some (.file id) ∧
            (session.host.contents id).toBytes =
              ((SharedFile.ofZeros size.toNat).run kind requests).1.bytes := by
  have directory : host.isDirectory mountPoint = true := by
    rw [Host.status] at missing
    split at missing
    · assumption
    · cases missing
  have addressed := Host.Addressed.of_segments? directory parsed short unterminated
  have vacant := addressed.status_classified.notFound_iff.mp missing
  have growing : kind ≠ .extSaveData := by rcases shares with rfl | rfl | rfl <;> decide
  have resolves : resolve ⟨kind, mountPoint⟩ host .createFile path = .ok (mountPoint.descendant segments) :=
    resolve_of_ready addressed parsed .createFile vacant
  obtain ⟨parent, name, whole, located⟩ := addressed.locate_vacant vacant
  have creates := createFile_of_vacant ⟨_, parent, name, resolves, located, rfl⟩
    fun fixed : kind = .extSaveData ∧ size = 0 => growing fixed.1
  rw [if_neg (Nat.not_le.mpr fits), whole] at creates
  refine ⟨_, host.files.length, creates, fun requests session answers runs => ?_⟩
  have represents : Represents ⟨kind, mountPoint⟩ path segments _ _ _ :=
    represents_created parsed addressed vacant size.toNat
  obtain ⟨last, same⟩ := represents.run shares requests
  rw [runs] at last same
  refine ⟨same, ?_, last.bytes⟩
  rw [Host.entryAt?_eq_some_iff, last.leads.lookup, last.leads.addressed.site_eq]

theorem run_created_eq_shared_emptyCard :
    ∃ created, createFile ⟨.disk, .ofString "/m"⟩ Host.emptyCard (.char "/f") 2 = (created, .ok ()) ∧
      ((FileSession.ofHost created).run ⟨.disk, .ofString "/m"⟩ (.char "/f")
          [.openWith .readWrite, .openWith .readOnly, .write 0 3 [7, 8], .write 1 0 [9],
            .close 0, .read 1 1 [1, 1, 1, 1, 1], .size 1]).2 =
        [.opened (.ok ()), .opened (.ok ()), .written (.ok 2), .written (.error .invalidOpenFlags),
          .closed true, .read [0, 0, 7, 8, 1] (.ok 4), .size 5] := by
  obtain ⟨created, id, creates, runs⟩ := run_created_eq_shared (.inl rfl)
    (show GuestPath.segments? (.char "/f") = some ["f"] by decide +kernel)
    (show Host.emptyCard.status (.ofString "/m") ["f"] = .notFound by decide +kernel)
    (by decide +kernel) (by decide +kernel) (show (2 : UInt64).toNat < Medium.limit by decide)
  exact ⟨created, creates, (runs _ _ _ rfl).1⟩

end Mount

end GuestStorage
