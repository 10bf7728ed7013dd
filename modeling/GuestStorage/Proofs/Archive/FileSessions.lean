import GuestStorage.Proofs.Archive.DiskOperations
import GuestStorage.Proofs.Archive.Numbering
import GuestStorage.Proofs.Host.Persistence

namespace GuestStorage

inductive FileRequest
  | openWith (mode : OpenMode)
  | read (handle : Nat) (offset : UInt64) (buffer : Bytes)
  | write (handle : Nat) (offset : UInt64) (data : Bytes)
  | resize (handle : Nat) (size : UInt64)
  | flush (handle : Nat)
  | close (handle : Nat)
  | size (handle : Nat)
  deriving DecidableEq, Repr

inductive FileAnswer
  | opened (result : Except ResultCode Unit)
  | read (buffer : Bytes) (result : Except ResultCode Nat)
  | written (result : Except ResultCode Nat)
  | resized (done : Bool)
  | flushed
  | closed (wasOpen : Bool)
  | size (bytes : Nat)
  | noHandle

structure FileSession where
  host : Host
  handles : List FileHandle

namespace FileSession

def ofHost (host : Host) : FileSession := ⟨host, []⟩

def act (mount : Mount) (path : GuestPath) (session : FileSession) :
    FileRequest → FileSession × FileAnswer
  | .openWith mode =>
    match mount.openFile session.host path mode with
    | (host, .error code) => ({ session with host }, .opened (.error code))
    | (host, .ok handle) => (⟨host, session.handles ++ [handle]⟩, .opened (.ok ()))
  | .read index offset buffer =>
    throughHandle session.handles index (session, .noHandle) fun handle =>
      let (handle, buffer, result) := handle.read session.host offset buffer
      ({ session with handles := session.handles.set index handle }, .read buffer result)
  | .write index offset data =>
    throughHandle session.handles index (session, .noHandle) fun handle =>
      match handle.write session.host offset data with
      | .error code => (session, .written (.error code))
      | .ok (host, count) => ({ session with host }, .written (.ok count))
  | .resize index size =>
    throughHandle session.handles index (session, .noHandle) fun handle =>
      match handle.setSize session.host size with
      | none => (session, .resized false)
      | some host => ({ session with host }, .resized true)
  | .flush index =>
    throughHandle session.handles index (session, .noHandle) fun handle =>
      ({ session with host := handle.flush session.host }, .flushed)
  | .close index =>
    throughHandle session.handles index (session, .noHandle) fun handle =>
      let (handle, wasOpen) := handle.close
      ({ session with handles := session.handles.set index handle }, .closed wasOpen)
  | .size index =>
    throughHandle session.handles index (session, .noHandle) fun handle =>
      (session, .size (handle.size session.host))

def run (mount : Mount) (path : GuestPath) (session : FileSession) :
    List FileRequest → FileSession × List FileAnswer
  | [] => (session, [])
  | request :: rest =>
    let (next, answer) := session.act mount path request
    let (last, answers) := next.run mount path rest
    (last, answer :: answers)

end FileSession

theorem Host.Addressed.of_segments? {host : Host} {mountPoint : HostPath} {path : GuestPath}
    {segments : List String} (directory : host.isDirectory mountPoint = true)
    (parsed : path.segments? = some segments)
    (short : ∀ segment ∈ segments, segment.utf8ByteSize ≤ Host.maxNameLength)
    (unterminated : ∀ segment ∈ segments, '\x00' ∉ segment.toList) :
    host.Addressed mountPoint segments where
  directory := directory
  names segment member := by
    have proper := GuestPath.proper_of_segments? parsed segment member
    exact ⟨proper.nontrivial, proper.notUp, short segment member⟩
  unterminated := unterminated

theorem Host.Resolves.names {tree : Tree} {place location : Location} {entry : Entry}
    {segments : List String} (resolves : Resolves tree place segments (.found location entry))
    (proper : ∀ segment ∈ segments, HostPath.Proper segment) : ∀ segment ∈ segments, Names segment := by
  induction segments generalizing place with
  | nil => exact nofun
  | cons first rest ih =>
      have ordinary := proper first List.mem_cons_self
      cases resolves with
      | stay _ trivial _ =>
          rw [ordinary.nontrivial] at trivial
          cases trivial
      | up => exact absurd rfl ordinary.notUp
      | down _ named _ onward =>
          intro segment member
          rcases List.mem_cons.mp member with rfl | later
          · exact named
          · exact ih onward (fun other inside => proper other (List.mem_cons_of_mem _ inside)) segment later

theorem Host.Addressed.of_entryAt? {host : Host} {mountPoint : HostPath} {path : GuestPath}
    {segments : List String} {entry : Entry} (directory : host.isDirectory mountPoint = true)
    (parsed : path.segments? = some segments)
    (found : host.entryAt? (mountPoint.descendant segments) = some entry) :
    host.Addressed mountPoint segments := by
  have proper := GuestPath.proper_of_segments? parsed
  by_cases root : segments = []
  · subst root
    exact ⟨directory, nofun, nofun⟩
  · have parts := HostPath.parts_descendant mountPoint root fun segment member =>
      (proper segment member).ne_empty
    have located := locate_of_lookup (entryAt?_eq_some_iff.mp found)
    have resolves := resolves_of_locate located
    have clear := hasZero_of_locate located
    rw [parts] at resolves
    rw [hasZero, parts, List.any_append, Bool.or_eq_false_iff, List.any_eq_false, List.any_eq_false] at clear
    obtain ⟨between, middle, -, onward⟩ := resolves.split rfl
    refine ⟨directory, onward.names proper, fun segment member => ?_⟩
    simpa using clear.2 segment member

/-- A guest path of an archive that leads to a file. -/
structure Mount.LeadsToFile (mount : Mount) (host : Host) (path : GuestPath) (segments : List String)
    (id : Nat) : Prop where
  parsed : path.segments? = some segments
  addressed : host.Addressed mount.mountPoint segments
  stands : host.tree.find? (host.site mount.mountPoint ++ segments) = some (.file id)

namespace Mount.LeadsToFile

variable {mount : Mount} {host : Host} {path : GuestPath} {segments : List String} {id : Nat}

theorem lookup (leads : mount.LeadsToFile host path segments id) :
    host.lookup (mount.mountPoint.descendant segments) =
      .ok (host.site mount.mountPoint ++ segments, .file id) :=
  leads.addressed.lookup_descendant leads.stands

theorem stored (leads : mount.LeadsToFile host path segments id) : id < host.files.length :=
  host.stored id (Tree.mem_fileIds_of_find? leads.stands)

theorem setContents (leads : mount.LeadsToFile host path segments id) (other : Nat) (contents : Contents) :
    mount.LeadsToFile (host.setContents other contents) path segments id where
  parsed := leads.parsed
  addressed := leads.addressed.of_kept (.refl host) rfl
  stands := leads.stands

theorem openFile (leads : mount.LeadsToFile host path segments id) (readable : mount.kind ≠ .sdCardWriteOnly)
    (mode : OpenMode) :
    mount.openFile host path mode =
      (host, if mount.kind.accepts (mount.kind.effectiveMode mode) then
          mount.handleAt host (mount.mountPoint.descendant segments) (mount.kind.effectiveMode mode)
        else .error mount.kind.family.badMode) := by
  have valid : path.isValid = true := by rw [GuestPath.isValid, leads.parsed, Option.isSome_some]
  have resolves (create : Bool) :=
    resolve_of_ready leads.addressed leads.parsed (.openFile create) (.inl ⟨id, leads.stands⟩)
  have present : host.hasEntry (mount.mountPoint.descendant segments) = true := by
    rw [Host.hasEntry, Host.entryAt?, leads.lookup]
    rfl
  simp only [Mount.openFile, readable, false_and, if_false, openWith, valid, Bool.not_true, Bool.false_eq_true,
    resolves, present, if_true]
  cases mount.kind.accepts (mount.kind.effectiveMode mode) <;> rfl

theorem openHostFile (leads : mount.LeadsToFile host path segments id) (writable : Bool) :
    host.openFile (mount.mountPoint.descendant segments) writable = .ok ⟨.file id, writable⟩ := by
  simp only [Host.openFile, leads.lookup, Entry.isDirectory, reduceCtorEq, decide_false, Bool.and_false,
    Bool.false_eq_true, if_false]

end Mount.LeadsToFile

end GuestStorage
