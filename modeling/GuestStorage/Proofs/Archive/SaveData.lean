import GuestStorage.Proofs.Archive.Confinement
import GuestStorage.Proofs.Archive.DiskOperations

/-!
# Save data beside a disk archive

A save data archive and a disk archive over one mount point answer with codes of different families, and that
is all they differ in: either both succeed, with the same host, handles and listings, or both fail and leave
the same host. `perform_same` says so of one operation, `run_saveData_eq_run_disk` of whole sessions.
-/

namespace GuestStorage

/-- Two answers of which both are the same, or both are refusals. -/
inductive SameButCode {α : Type} : Except ResultCode α → Except ResultCode α → Prop
  | given (answer : α) : SameButCode (.ok answer) (.ok answer)
  | refused (left right : ResultCode) : SameButCode (.error left) (.error right)

structure SameEffect {α : Type} (left right : Host × Except ResultCode α) : Prop where
  host : left.1 = right.1
  answer : SameButCode left.2 right.2

namespace SameEffect

variable {α β : Type} {left right : Host × Except ResultCode α}

theorem refl (result : Host × Except ResultCode α) : SameEffect result result := by
  obtain ⟨host, answer⟩ := result
  cases answer with
  | error code => exact ⟨rfl, .refused code code⟩
  | ok answer => exact ⟨rfl, .given answer⟩

theorem refused (host : Host) (left right : ResultCode) :
    SameEffect (α := α) (host, .error left) (host, .error right) :=
  ⟨rfl, .refused left right⟩

theorem map (same : SameEffect left right) (change : α → β) :
    SameEffect (left.map id (.map change)) (right.map id (.map change)) := by
  obtain ⟨host, leftAnswer⟩ := left
  obtain ⟨other, rightAnswer⟩ := right
  obtain ⟨hosts, answers⟩ := same
  dsimp only at hosts answers
  subst hosts
  cases answers with
  | given answer => exact refl _
  | refused left right => exact refused host left right

theorem of_target {host : Host} {act act' : HostPath → Host × Except ResultCode α}
    (acts : ∀ target, SameEffect (act target) (act' target))
    {resolved other : Except ResultCode HostPath} :
    SameButCode resolved other →
      SameEffect
        (match resolved with
          | .error code => (host, .error code)
          | .ok target => act target)
        (match other with
          | .error code => (host, .error code)
          | .ok target => act' target) := by
  intro both
  cases both with
  | given target => exact acts target
  | refused left right => exact refused host left right

end SameEffect

namespace Mount

theorem resolve_same (left right : MountKind) (mountPoint : HostPath) (host : Host)
    (operation : PathOperation) (path : GuestPath) :
    SameButCode (resolve ⟨left, mountPoint⟩ host operation path)
      (resolve ⟨right, mountPoint⟩ host operation path) := by
  rw [resolve, resolve]
  cases path.segments? with
  | none => exact .refused _ _
  | some segments =>
      have alike : left.family.refusal operation (host.status mountPoint segments) = none ↔
          right.family.refusal operation (host.status mountPoint segments) = none := by
        rw [CodeFamily.refusal_eq_none_iff, CodeFamily.refusal_eq_none_iff]
      dsimp only
      cases onLeft : left.family.refusal operation (host.status mountPoint segments) with
      | none =>
          rw [alike.mp onLeft]
          exact .given _
      | some code =>
          cases onRight : right.family.refusal operation (host.status mountPoint segments) with
          | none =>
              rw [alike.mpr onRight] at onLeft
              cases onLeft
          | some other => exact .refused code other

theorem deletable_same (left right : MountKind) (mountPoint : HostPath) (host : Host) (path : GuestPath) :
    SameButCode (deletable ⟨left, mountPoint⟩ host path) (deletable ⟨right, mountPoint⟩ host path) := by
  rw [deletable, deletable]
  split
  · exact .refused _ _
  · exact resolve_same left right mountPoint host .deleteDirectory path

theorem settle_same (host : Host) (left right : ResultCode) (result : Except HostError Host) :
    SameEffect (settle host left result) (settle host right result) := by
  cases result with
  | error cause => exact .refused host left right
  | ok changed => exact .refl _

variable (mountPoint : HostPath) (host : Host)

theorem handleAt_same (target : HostPath) (mode : OpenMode) :
    SameButCode (handleAt ⟨.saveData, mountPoint⟩ host target mode)
      (handleAt ⟨.disk, mountPoint⟩ host target mode) := by
  simp only [handleAt, reduceCtorEq, if_false]
  cases host.openFile target mode.write with
  | error cause => exact .refused _ _
  | ok file => exact .given _

theorem openFile_same (path : GuestPath) (mode : OpenMode) :
    SameEffect (openFile ⟨.saveData, mountPoint⟩ host path mode)
      (openFile ⟨.disk, mountPoint⟩ host path mode) := by
  have effective : MountKind.saveData.effectiveMode mode = MountKind.disk.effectiveMode mode := rfl
  have accepts (mode : OpenMode) : MountKind.saveData.accepts mode = MountKind.disk.accepts mode := rfl
  simp only [openFile, openWith, reduceCtorEq, false_and, if_false, effective, accepts]
  split
  · exact .refl _
  · split
    · exact .refused host _ _
    · refine SameEffect.of_target (fun target => ?_) (resolve_same ..)
      split
      · exact ⟨rfl, handleAt_same mountPoint host target _⟩
      · split
        · exact .refl _
        · rename_i made _
          exact ⟨rfl, handleAt_same mountPoint made target _⟩

theorem createFile_same (path : GuestPath) (size : UInt64) :
    SameEffect (createFile ⟨.saveData, mountPoint⟩ host path size)
      (createFile ⟨.disk, mountPoint⟩ host path size) := by
  simp only [createFile, reduceCtorEq, false_and, if_false]
  exact SameEffect.of_target (fun target => .refl _) (resolve_same ..)

theorem openDirectory_same (path : GuestPath) :
    SameEffect (host, openDirectory ⟨.saveData, mountPoint⟩ host path)
      (host, openDirectory ⟨.disk, mountPoint⟩ host path) := by
  have both := resolve_same .saveData .disk mountPoint host .openDirectory path
  simp only [openDirectory, reduceCtorEq, if_false]
  generalize resolve ⟨.saveData, mountPoint⟩ host .openDirectory path = resolved at both ⊢
  generalize resolve ⟨.disk, mountPoint⟩ host .openDirectory path = other at both ⊢
  cases both with
  | given target => exact .refl _
  | refused left right => exact .refused host left right

theorem perform_same (operation : Operation) :
    SameEffect (perform ⟨.saveData, mountPoint⟩ host operation)
      (perform ⟨.disk, mountPoint⟩ host operation) := by
  cases operation with
  | openFile path mode => exact (openFile_same mountPoint host path mode).map _
  | createFile path size => exact (createFile_same mountPoint host path size).map _
  | deleteFile path =>
      refine SameEffect.map ?_ _
      exact SameEffect.of_target (fun target => settle_same host _ _ _) (resolve_same ..)
  | createDirectory path =>
      refine SameEffect.map ?_ _
      exact SameEffect.of_target (fun target => .refl _) (resolve_same ..)
  | deleteDirectory path =>
      refine SameEffect.map ?_ _
      exact SameEffect.of_target (fun target => settle_same host _ _ _) (deletable_same ..)
  | deleteDirectoryRecursively path =>
      refine SameEffect.map ?_ _
      refine SameEffect.of_target (fun target => ?_) (deletable_same ..)
      split
      · exact .refused _ _ _
      · exact .refl _
  | openDirectory path =>
      exact (openDirectory_same mountPoint host path).map _
  | rename source target => exact .refl _

def Operation.Malformed : Operation → Prop
  | openFile path _ | createFile path _ | deleteFile path | createDirectory path
  | deleteDirectory path | deleteDirectoryRecursively path | openDirectory path => path.isValid = false
  | rename source target => source.isValid = false ∨ target.isValid = false

def Operation.Allocates (host : Host) (mountPoint : HostPath) : Operation → Prop
  | openFile path mode => mode.create = true ∧ mode.write = true ∧
    ∃ segments, path.segments? = some segments ∧ host.status mountPoint segments = .notFound
  | createFile path _ =>
    ∃ segments, path.segments? = some segments ∧ host.status mountPoint segments = .notFound
  | deleteFile _ | createDirectory _ | deleteDirectory _ | deleteDirectoryRecursively _
  | openDirectory _ | rename .. => False

variable {mountPoint host}

theorem resolve_of_invalid {path : GuestPath} (mount : Mount) (operation : PathOperation)
    (invalid : path.isValid = false) :
    mount.resolve host operation path = .error .invalidPath := by
  rw [GuestPath.isValid, Option.isSome_eq_false_iff, Option.isNone_iff_eq_none] at invalid
  rw [resolve, invalid]

theorem deletable_of_invalid {path : GuestPath} (mount : Mount) (invalid : path.isValid = false) :
    mount.deletable host path = .error .invalidPath := by
  have notRoot : path.isRoot = false := by
    rw [GuestPath.isValid, Option.isSome_eq_false_iff, Option.isNone_iff_eq_none] at invalid
    rw [GuestPath.isRoot, invalid]
    rfl
  rw [deletable, notRoot, if_neg Bool.false_ne_true, resolve_of_invalid mount .deleteDirectory invalid]

theorem rename_of_invalid {source target : GuestPath} (mount : Mount)
    (invalid : source.isValid = false ∨ target.isValid = false) :
    mount.rename host source target = (host, .error .invalidPath) := by
  simp only [GuestPath.isValid, Option.isSome_eq_false_iff, Option.isNone_iff_eq_none] at invalid
  rw [rename]
  rcases invalid with unread | unread
  · rw [unread]
  · cases source.segments? <;> rw [unread]

theorem perform_of_malformed {kind : MountKind} (plain : kind = .saveData ∨ kind = .disk)
    {operation : Operation} (malformed : operation.Malformed) :
    perform ⟨kind, mountPoint⟩ host operation = (host, .error .invalidPath) := by
  have notExt : kind ≠ .extSaveData := by rcases plain with rfl | rfl <;> decide
  have notWriteOnly : kind ≠ .sdCardWriteOnly := by rcases plain with rfl | rfl <;> decide
  cases operation with
  | openFile path mode =>
      have invalid : path.isValid = false := malformed
      simp only [perform, openFile, openWith, notWriteOnly, invalid, false_and, if_false, Bool.not_false,
        if_true]
      rfl
  | createFile path size =>
      simp only [perform, createFile, notExt, false_and, if_false, resolve_of_invalid _ _ malformed]
      rfl
  | deleteFile path =>
      simp only [perform, deleteFile, resolve_of_invalid _ _ malformed]
      rfl
  | createDirectory path =>
      simp only [perform, createDirectory, resolve_of_invalid _ _ malformed]
      rfl
  | deleteDirectory path =>
      simp only [perform, deleteDirectory, deletable_of_invalid _ malformed]
      rfl
  | deleteDirectoryRecursively path =>
      simp only [perform, deleteDirectoryRecursively, deletable_of_invalid _ malformed]
      rfl
  | openDirectory path =>
      simp only [perform, openDirectory, notWriteOnly, if_false, resolve_of_invalid _ _ malformed]
      rfl
  | rename source target =>
      simp only [perform, rename_of_invalid _ malformed]
      rfl

theorem resolve_of_notFound (mount : Mount) {operation : PathOperation} {path : GuestPath}
    {segments : List String} (parsed : path.segments? = some segments)
    (free : host.status mount.mountPoint segments = .notFound)
    (makes : operation = .openFile true ∨ operation = .createFile) :
    mount.resolve host operation path = .ok (mount.mountPoint.descendant segments) := by
  have accepted : mount.kind.family.refusal operation .notFound = none := by
    rw [CodeFamily.refusal_eq_none_iff]
    rcases makes with rfl | rfl <;> rfl
  simp only [resolve, parsed, free, accepted]

theorem openFile_of_allocate {target : HostPath} {made : Host}
    (allocated : host.allocate target 0 = (made, .ok ())) (writable : Bool) :
    ∃ file, made.openFile target writable = .ok file := by
  rw [Host.allocate] at allocated
  split at allocated
  · cases allocated
  · rename_i id creates
    cases allocated
    obtain ⟨location, found⟩ := (Host.createFile_eq_ok creates).leads
    exact ⟨⟨.file id, writable⟩, by simp [Host.openFile, found, Entry.isDirectory]⟩

theorem perform_of_allocates {operation : Operation} (allocates : operation.Allocates host mountPoint) :
    perform ⟨.saveData, mountPoint⟩ host operation = perform ⟨.disk, mountPoint⟩ host operation := by
  cases operation with
  | createFile path size =>
      obtain ⟨segments, parsed, free⟩ := allocates
      have resolves (kind : MountKind) :=
        resolve_of_notFound ⟨kind, mountPoint⟩ parsed free (.inr rfl)
      simp only [perform, createFile, reduceCtorEq, false_and, if_false, resolves]
  | openFile path mode =>
      obtain ⟨creating, writing, segments, parsed, free⟩ := allocates
      have resolves (kind : MountKind) :=
        resolve_of_notFound ⟨kind, mountPoint⟩ parsed free (.inl (congrArg _ creating))
      have absent : host.hasEntry (mountPoint.descendant segments) = false := by
        rw [Host.status] at free
        split at free
        · exact hasEntry_of_statusBelow free
        · cases free
      have valid : path.isValid = true := by rw [GuestPath.isValid, parsed, Option.isSome_some]
      have acceptsSave : MountKind.saveData.accepts mode = true := by
        simp [MountKind.accepts, OpenMode.isEmpty, creating, writing]
      have acceptsDisk : MountKind.disk.accepts mode = true := acceptsSave
      have effective (kind : MountKind) (notCard : kind ≠ .sdCard) : kind.effectiveMode mode = mode :=
        if_neg notCard
      simp only [perform, openFile, openWith, reduceCtorEq, false_and, if_false, valid, acceptsSave,
        acceptsDisk, effective, ne_eq, not_false_eq_true, resolves, absent, Bool.not_true,
        Bool.false_eq_true]
      cases allocated : host.allocate (mountPoint.descendant segments) 0 with
      | mk made result =>
          cases result with
          | error code => rfl
          | ok done =>
              obtain ⟨file, opens⟩ := openFile_of_allocate allocated mode.write
              simp only [handleAt, reduceCtorEq, if_false, opens]
  | _ => exact allocates.elim

/-- How far two archives over one mount point agree about an operation. -/
structure AlikeAt (host : Host) (mountPoint : HostPath) (operation : Operation) : Prop where
  effect : SameEffect (perform ⟨.saveData, mountPoint⟩ host operation)
    (perform ⟨.disk, mountPoint⟩ host operation)
  malformed : operation.Malformed →
    (perform ⟨.saveData, mountPoint⟩ host operation).2 = .error .invalidPath ∧
      (perform ⟨.disk, mountPoint⟩ host operation).2 = .error .invalidPath
  renames : ∀ source target, operation = .rename source target →
    (perform ⟨.saveData, mountPoint⟩ host operation).2 = (perform ⟨.disk, mountPoint⟩ host operation).2
  allocation : operation.Allocates host mountPoint →
    (perform ⟨.saveData, mountPoint⟩ host operation).2 = (perform ⟨.disk, mountPoint⟩ host operation).2

theorem alikeAt (host : Host) (mountPoint : HostPath) (operation : Operation) :
    AlikeAt host mountPoint operation where
  effect := perform_same mountPoint host operation
  malformed malformed :=
    ⟨by rw [perform_of_malformed (.inl rfl) malformed], by rw [perform_of_malformed (.inr rfl) malformed]⟩
  renames := by
    rintro source target rfl
    rfl
  allocation allocates := by rw [perform_of_allocates allocates]

end Mount

namespace Session

theorem receive_same (session : Session) {left right : Host × Except ResultCode Mount.Outcome}
    (same : SameEffect left right) : session.receive left = session.receive right := by
  obtain ⟨host, leftAnswer⟩ := left
  obtain ⟨other, rightAnswer⟩ := right
  obtain ⟨hosts, answers⟩ := same
  dsimp only at hosts answers
  subst hosts
  cases answers with
  | given answer => rfl
  | refused left right => rfl

theorem act_same (mountPoint : HostPath) (session : Session) (action : Action) :
    session.act ⟨.saveData, mountPoint⟩ action = session.act ⟨.disk, mountPoint⟩ action := by
  cases action with
  | perform operation =>
      exact session.receive_same (Mount.perform_same mountPoint session.host operation)
  | read index offset buffer => rfl
  | write index offset data => rfl
  | resize index size => rfl
  | close index => rfl
  | list index count => rfl

theorem run_same (mountPoint : HostPath) (session : Session) (actions : List Action) :
    session.run ⟨.saveData, mountPoint⟩ actions = session.run ⟨.disk, mountPoint⟩ actions := by
  induction actions generalizing session with
  | nil => rfl
  | cons action rest ih =>
      rw [run, List.foldl_cons, act_same]
      exact ih _

/-- A guest that does the same at a save data archive and at a disk archive comes to the same host with the
same open handles and listings; the next operation then has the same effect in both, and the same code where
the path is malformed, a rename fails or a file cannot be allocated. -/
theorem run_saveData_eq_run_disk (host : Host) (mountPoint : HostPath) (actions : List Action) :
    (ofHost host).run ⟨.saveData, mountPoint⟩ actions = (ofHost host).run ⟨.disk, mountPoint⟩ actions ∧
      (∀ operation,
        Mount.AlikeAt ((ofHost host).run ⟨.disk, mountPoint⟩ actions).host mountPoint operation) ∧
      (Archive.mounted ⟨.saveData, mountPoint⟩).freeBytes =
        (Archive.mounted ⟨.disk, mountPoint⟩).freeBytes :=
  ⟨run_same mountPoint (ofHost host) actions, fun operation => Mount.alikeAt _ mountPoint operation, rfl⟩

end Session

end GuestStorage
