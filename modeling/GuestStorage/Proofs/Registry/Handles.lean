import GuestStorage.Proofs.Registry.ConsoleSessions
import Mathlib.Data.List.Induction

/-!
# Handles of open archives

A run is whatever is asked of a console, in any order, while anything may happen on the host in between.
`Reached` tells from the run alone which archive a handle stands for: the one that it was given out for, until
a close takes it. `Tracked` says that the registry agrees with this after every run, and `run_orderly` what
follows for the calls.
-/

namespace GuestStorage

namespace Registry

variable {registry next : Registry}

@[simp] theorem archive_eq_ok_iff {handle : Nat} {archive : Archive} :
    registry.archive handle = .ok archive ↔ registry.archives.lookup handle = some archive := by
  rw [Registry.archive]
  cases registry.archives.lookup handle <;> simp

theorem archive_of_absent {handle : Nat} (absent : registry.archives.lookup handle = none) :
    registry.archive handle = .error .invalidArchiveHandle := by
  rw [Registry.archive, absent]

theorem archive_error {handle : Nat} {code : ResultCode} (refused : registry.archive handle = .error code) :
    code = .invalidArchiveHandle := by
  rw [archive] at refused
  split at refused <;> cases refused
  rfl

@[simp] theorem lookup_add (registry : Registry) (archive : Archive) (handle : Nat) :
    (registry.add archive).1.archives.lookup handle =
      if handle = registry.nextHandle then some archive else registry.archives.lookup handle := by
  rw [add, List.lookup_cons]
  by_cases newest : handle = registry.nextHandle
  · rw [if_pos newest, beq_iff_eq.mpr newest]
  · rw [if_neg newest, beq_eq_false_iff_ne.mpr newest]

def without (registry : Registry) (handle : Nat) : Registry :=
  { registry with archives := registry.archives.filter (·.1 ≠ handle) }

@[simp] theorem lookup_without (registry : Registry) (handle other : Nat) :
    (registry.without handle).archives.lookup other =
      if other = handle then none else registry.archives.lookup other := by
  rw [without, Tree.lookup_filter_keys fun place => decide (place ≠ handle)]
  by_cases same : other = handle <;> simp [same]

theorem close_of_archive {handle : Nat} {archive : Archive} (found : registry.archive handle = .ok archive) :
    registry.close handle = .ok (registry.without handle) := by
  rw [close, found, without]

@[simp] theorem factory_eq_ok_iff {id : ArchiveId} {factory : Factory} :
    registry.factory id = .ok factory ↔ registry.factories.lookup id = some factory := by
  rw [Registry.factory]
  cases registry.factories.lookup id <;> simp

/-- Handles stay as they are, and no identifier loses its factory. -/
structure Extends (registry next : Registry) : Prop where
  archives : next.archives = registry.archives
  nextHandle : next.nextHandle = registry.nextHandle
  factories : registry.factories <+: next.factories

theorem Extends.refl (registry : Registry) : Extends registry registry := ⟨rfl, rfl, List.prefix_refl _⟩

theorem lookup_of_prefix {Key Value : Type} [BEq Key] [LawfulBEq Key] {front whole : List (Key × Value)}
    {key : Key} {value : Value} (above : front <+: whole) (found : front.lookup key = some value) :
    whole.lookup key = some value := by
  obtain ⟨rest, rfl⟩ := above
  rw [List.lookup_append, found, Option.some_or]

theorem register_extends {id : ArchiveId} {factory : Factory}
    (registers : registry.register id factory = .ok next) : Extends registry next := by
  rw [register] at registers
  split at registers
  · cases registers
  · cases registers
    exact ⟨rfl, rfl, List.prefix_append ..⟩

theorem register_of_taken {id : ArchiveId} {factory : Factory} (taken : registry.factory id = .ok factory)
    (other : Factory) : registry.register id other = .error .alreadyExists := by
  rw [register, isRegistered, factory_eq_ok_iff.mp taken, Option.isSome_some, if_pos rfl]

end Registry

namespace Console

open Registry (Extends)

variable {console : Console} {stages : List Stage} {entries : List (ArchiveId × Factory)}

/-! ## Registering -/

theorem registerEach_extends (registry : Registry) (entries : List (ArchiveId × Factory)) :
    Extends registry (registerEach registry entries).1 := by
  have outcome := Registry.registerEach_registered registry entries
  generalize registerEach registry entries = result at outcome ⊢
  cases outcome with
  | all | upTo => exact ⟨rfl, rfl, List.prefix_append ..⟩

theorem registerDefaults_extends (console : Console) (config : Config) :
    Extends console.registry (console.registerDefaults config).1.registry := by
  obtain ⟨host, registers⟩ := console.registerDefaults_eq config
  have each := registerEach_extends console.registry (console.offers config)
  rw [registers]
  cases outcome : registerEach console.registry (console.offers config) with
  | mk registry result =>
      rw [outcome] at each
      cases result with
      | error code => exact each
      | ok => exact ⟨each.archives, each.nextHandle, each.factories⟩

/-! ## Calls -/

/-- What is asked of a console by a guest or by the system. The host may also change by other hands, such as
those that write to open files. -/
inductive Call
  | register (id : ArchiveId) (factory : Factory)
  | registerDefaults (config : Config)
  | openArchive (id : ArchiveId) (path : GuestPath)
  | closeArchive (handle : Nat)
  | format (id : ArchiveId) (path : GuestPath) (info : FormatInfo)
  | formatInfo (id : ArchiveId) (path : GuestPath)
  | setProgramId (programId : UInt64)
  | perform (handle : Nat) (operation : Mount.Operation)
  | rename (source : Nat) (sourcePath : GuestPath) (target : Nat) (targetPath : GuestPath)
  | freeBytes (handle : Nat)
  | elsewhere (host : Host)

inductive Answer
  | done
  | handle (handle : Nat)
  | info (info : FormatInfo)
  | outcome (outcome : Mount.Outcome)
  | size (bytes : Nat)
  deriving DecidableEq, Repr

def Call.Names (handle : Nat) : Call → Prop
  | closeArchive named | perform named _ | freeBytes named => named = handle
  | rename source _ target _ => source = handle ∨ target = handle
  | register .. | registerDefaults _ | openArchive .. | format .. | formatInfo .. | setProgramId _
  | elsewhere _ => False

def Call.keepsHandles : Call → Bool
  | openArchive .. | closeArchive _ => false
  | _ => true

def answered {α : Type} (answer : α → Answer) (result : Console × Except ResultCode α) :
    Console × Except ResultCode Answer :=
  (result.1, result.2.map answer)

def enter (console : Console) : Except ResultCode Registry → Console × Except ResultCode Answer
  | .error code => (console, .error code)
  | .ok registry => ({ console with registry }, .ok .done)

def call (console : Console) : Call → Console × Except ResultCode Answer
  | .register id factory => console.enter (console.registry.register id factory)
  | .registerDefaults config => answered (fun () => .done) (console.registerDefaults config)
  | .openArchive id path =>
    match console.openArchive id path with
    | .error code => (console, .error code)
    | .ok (next, handle) => (next, .ok (.handle handle))
  | .closeArchive handle => console.enter (console.registry.close handle)
  | .format id path info => answered (fun () => .done) (console.format id path info)
  | .formatInfo id path => (console, (console.formatInfo id path).map .info)
  | .setProgramId programId => (console.setProgramId programId, .ok .done)
  | .perform handle operation =>
    answered .outcome (console.through handle fun archive host => archive.perform host operation)
  | .rename source sourcePath target targetPath =>
    answered (fun () => .done) (console.rename source sourcePath target targetPath)
  | .freeBytes handle =>
    answered .size (console.through handle fun archive host => (host, .ok archive.freeBytes))
  | .elsewhere host => ({ console with host }, .ok .done)

def run (console : Console) (calls : List Call) : Console :=
  calls.foldl (fun console call => (console.call call).1) console

def answers (console : Console) : List Call → List (Except ResultCode Answer)
  | [] => []
  | call :: rest => (console.call call).2 :: answers (console.call call).1 rest

def opened (answers : List (Except ResultCode Answer)) : List Nat :=
  answers.filterMap fun
    | .ok (.handle handle) => some handle
    | _ => none

@[simp] theorem opened_append (first second : List (Except ResultCode Answer)) :
    opened (first ++ second) = opened first ++ opened second := List.filterMap_append

def backend (console : Console) (id : ArchiveId) (path : GuestPath) : Except ResultCode Archive :=
  match console.registry.factory id with
  | .error code => .error code
  | .ok factory => factory.openArchive console.titles console.host path

theorem call_openArchive (console : Console) (id : ArchiveId) (path : GuestPath) :
    console.call (.openArchive id path) =
      match console.backend id path with
      | .error code => (console, .error code)
      | .ok archive => ({ console with registry := (console.registry.add archive).1 },
          .ok (.handle console.registry.nextHandle)) := by
  rw [call, openArchive, backend]
  cases console.registry.factory id with
  | error => rfl
  | ok factory =>
      dsimp only
      cases factory.openArchive console.titles console.host path <;> rfl

theorem run_append (console : Console) (first second : List Call) :
    console.run (first ++ second) = (console.run first).run second := List.foldl_append

@[simp] theorem run_concat (console : Console) (calls : List Call) (call : Call) :
    console.run (calls ++ [call]) = ((console.run calls).call call).1 := run_append ..

@[simp] theorem answers_concat (console : Console) (calls : List Call) (call : Call) :
    console.answers (calls ++ [call]) = console.answers calls ++ [((console.run calls).call call).2] := by
  induction calls generalizing console with
  | nil => rfl
  | cons first rest ih => exact congrArg _ (ih _)

theorem call_extends (console : Console) {call : Call} (keeps : call.keepsHandles = true) :
    Extends console.registry (console.call call).1.registry := by
  cases call with
  | register id factory =>
      rw [Console.call]
      cases registers : console.registry.register id factory with
      | error code => exact .refl _
      | ok registry => exact Registry.register_extends registers
  | registerDefaults config => exact console.registerDefaults_extends config
  | openArchive | closeArchive => cases keeps
  | format id path info =>
      rw [Console.call, answered, format]
      split <;> exact .refl _
  | formatInfo | elsewhere => exact .refl _
  | setProgramId programId =>
      rw [Console.call, setProgramId]
      split <;> exact .refl _
  | perform | freeBytes =>
      rw [Console.call, answered, through]
      split <;> exact .refl _
  | rename source sourcePath target targetPath =>
      rw [Console.call, answered, rename]
      split <;> exact .refl _

theorem opened_of_keepsHandles {call : Call} (keeps : call.keepsHandles = true) :
    opened [(console.call call).2] = [] := by
  cases call with
  | openArchive | closeArchive => cases keeps
  | register id factory =>
      rw [Console.call]
      cases console.registry.register id factory <;> rfl
  | registerDefaults config =>
      rw [Console.call, answered]
      cases (console.registerDefaults config).2 <;> rfl
  | format id path info =>
      rw [Console.call, answered]
      cases (console.format id path info).2 <;> rfl
  | formatInfo id path =>
      rw [Console.call]
      cases console.formatInfo id path <;> rfl
  | setProgramId | elsewhere => rfl
  | perform handle operation =>
      rw [Console.call, answered]
      cases (console.through handle fun archive host => archive.perform host operation).2 <;> rfl
  | rename source sourcePath target targetPath =>
      rw [Console.call, answered]
      cases (console.rename source sourcePath target targetPath).2 <;> rfl
  | freeBytes handle =>
      rw [Console.call, answered]
      cases (console.through handle fun archive host => (host, .ok archive.freeBytes)).2 <;> rfl

theorem call_factories (console : Console) (call : Call) :
    console.registry.factories <+: (console.call call).1.registry.factories := by
  cases call with
  | openArchive id path =>
      rw [call_openArchive]
      cases console.backend id path <;> exact List.prefix_refl _
  | closeArchive handle =>
      rw [Console.call, Registry.close]
      cases console.registry.archive handle <;> exact List.prefix_refl _
  | register | registerDefaults | format | formatInfo | setProgramId | perform | rename | freeBytes
  | elsewhere => exact (console.call_extends rfl).factories

theorem factories_above (console : Console) (calls : List Call) :
    console.registry.factories <+: (console.run calls).registry.factories := by
  induction calls generalizing console with
  | nil => exact List.prefix_refl _
  | cons call rest ih =>
      exact (console.call_factories call).trans (ih _)

/-! ## Handles -/

/-- The handle was given out for the archive, and is not closed yet. -/
def Reached (origin : Console) (calls : List Call) (handle : Nat) (archive : Archive) : Prop :=
  ∃ before id path after, calls = before ++ .openArchive id path :: after ∧
    .closeArchive handle ∉ after ∧
    ((origin.run before).call (.openArchive id path)).2 = .ok (.handle handle) ∧
    (origin.run before).backend id path = .ok archive

section Handles

variable {origin : Console} {calls : List Call} {handle : Nat} {archive : Archive}

theorem call_of_backend {id : ArchiveId} {path : GuestPath} (opens : console.backend id path = .ok archive) :
    console.call (.openArchive id path) =
      ({ console with registry := (console.registry.add archive).1 },
        .ok (.handle console.registry.nextHandle)) := by
  rw [call_openArchive, opens]

theorem reached_append (reached : Reached origin calls handle archive) {more : List Call}
    (closes : .closeArchive handle ∉ more) : Reached origin (calls ++ more) handle archive := by
  obtain ⟨before, id, path, after, rfl, kept, answer, opens⟩ := reached
  refine ⟨before, id, path, after ++ more, by simp, ?_, answer, opens⟩
  rw [List.mem_append]
  exact not_or.mpr ⟨kept, closes⟩

theorem reached_concat_iff (call : Call) :
    Reached origin (calls ++ [call]) handle archive ↔
      (call ≠ .closeArchive handle ∧ Reached origin calls handle archive) ∨
      ∃ id path, call = .openArchive id path ∧ handle = (origin.run calls).registry.nextHandle ∧
        (origin.run calls).backend id path = .ok archive := by
  constructor
  · rintro ⟨before, id, path, after, split, kept, answer, opens⟩
    -- The call that gave the handle out is the last one, or stands before it.
    rcases List.eq_nil_or_concat after with rfl | ⟨front, last, rfl⟩
    · obtain ⟨rfl, same⟩ := List.append_inj' split rfl
      cases same
      rw [call_of_backend opens] at answer
      exact .inr ⟨id, path, rfl, by cases answer; rfl, opens⟩
    · rw [List.concat_eq_append] at split kept
      rw [← List.cons_append, ← List.append_assoc] at split
      obtain ⟨rfl, same⟩ := List.append_inj' split rfl
      cases same
      rw [List.mem_append, not_or, List.mem_singleton] at kept
      exact .inl ⟨Ne.symm kept.2, before, id, path, front, rfl, kept.1, answer, opens⟩
  · rintro (⟨other, reached⟩ | ⟨id, path, rfl, rfl, opens⟩)
    · exact reached_append reached fun closes => other (List.mem_singleton.mp closes).symm
    · exact ⟨calls, id, path, [], rfl, List.not_mem_nil, by rw [call_of_backend opens], opens⟩

structure Tracked (origin : Console) (calls : List Call) : Prop where
  counted : opened (origin.answers calls) = List.range' 1 (opened (origin.answers calls)).length
  next : (origin.run calls).registry.nextHandle = (opened (origin.answers calls)).length + 1
  known : ∀ handle archive, (origin.run calls).registry.archives.lookup handle = some archive →
    handle < (origin.run calls).registry.nextHandle
  stands : ∀ handle archive, (origin.run calls).registry.archives.lookup handle = some archive ↔
    Reached origin calls handle archive

namespace Tracked

theorem start (host : Host) : Tracked (ofHost host) [] where
  counted := rfl
  next := rfl
  known := nofun
  stands handle archive := by
    refine ⟨nofun, ?_⟩
    rintro ⟨before, id, path, after, split, -⟩
    exact absurd split.symm (List.append_ne_nil_of_right_ne_nil _ nofun)

theorem same (tracked : Tracked origin calls) {call : Call}
    (archives : ((origin.run calls).call call).1.registry.archives = (origin.run calls).registry.archives)
    (nextHandle : ((origin.run calls).call call).1.registry.nextHandle = (origin.run calls).registry.nextHandle)
    (nothing : opened [((origin.run calls).call call).2] = [])
    (reached : ∀ handle archive,
      Reached origin (calls ++ [call]) handle archive ↔ Reached origin calls handle archive) :
    Tracked origin (calls ++ [call]) := by
  have given : opened (origin.answers (calls ++ [call])) = opened (origin.answers calls) := by
    simp [nothing]
  refine ⟨?_, ?_, ?_, ?_⟩
  · rw [given]
    exact tracked.counted
  · rw [run_concat, given, nextHandle]
    exact tracked.next
  · rw [run_concat, archives, nextHandle]
    exact tracked.known
  · intro handle archive
    rw [run_concat, archives, reached]
    exact tracked.stands handle archive

theorem keep (tracked : Tracked origin calls) {call : Call} (keeps : call.keepsHandles = true) :
    Tracked origin (calls ++ [call]) := by
  have kept := (origin.run calls).call_extends keeps
  refine tracked.same kept.archives kept.nextHandle (opened_of_keepsHandles keeps) fun handle archive => ?_
  rw [reached_concat_iff]
  cases call with
  | openArchive | closeArchive => cases keeps
  | _ => simp

theorem openArchive (tracked : Tracked origin calls) (id : ArchiveId) (path : GuestPath) :
    Tracked origin (calls ++ [.openArchive id path]) := by
  cases opens : (origin.run calls).backend id path with
  | error code =>
      have refused : (origin.run calls).call (.openArchive id path) = (origin.run calls, .error code) := by
        rw [call_openArchive, opens]
      refine tracked.same (by rw [refused]) (by rw [refused]) (by rw [refused]; rfl) fun handle archive => ?_
      rw [reached_concat_iff]
      simp [opens]
  | ok archive =>
      have given : opened (origin.answers (calls ++ [.openArchive id path])) =
          opened (origin.answers calls) ++ [(origin.run calls).registry.nextHandle] := by
        simp [call_of_backend opens, opened]
      have added : (origin.run (calls ++ [.openArchive id path])).registry =
          ((origin.run calls).registry.add archive).1 := by
        simp [call_of_backend opens]
      refine ⟨?_, ?_, fun handle other found => ?_, fun handle other => ?_⟩
      · rw [given, List.length_append, List.length_singleton, List.range'_1_concat, ← tracked.counted,
          tracked.next, Nat.add_comm 1]
      · rw [added, given, List.length_append, List.length_singleton, Registry.add, tracked.next]
      · rw [added, Registry.lookup_add] at found
        rw [added]
        split at found
        · next newest => exact newest ▸ Nat.lt_succ_self _
        · exact Nat.lt_succ_of_lt (tracked.known handle other found)
      · rw [added, Registry.lookup_add, reached_concat_iff, ← tracked.stands]
        by_cases newest : handle = (origin.run calls).registry.nextHandle
        · -- The newest handle was not open before.
          have fresh : (origin.run calls).registry.archives.lookup handle ≠ some other := fun found =>
            Nat.ne_of_lt (tracked.known handle other found) newest
          simp [newest ▸ fresh, newest, opens]
        · simp [newest]

theorem closeArchive (tracked : Tracked origin calls) (handle : Nat) :
    Tracked origin (calls ++ [.closeArchive handle]) := by
  cases found : (origin.run calls).registry.archive handle with
  | error code =>
      have refused : (origin.run calls).call (.closeArchive handle) = (origin.run calls, .error code) := by
        rw [call, Registry.close, found, enter]
      refine tracked.same (by rw [refused]) (by rw [refused]) (by rw [refused]; rfl) fun other archive => ?_
      rw [reached_concat_iff, ← tracked.stands, ← Registry.archive_eq_ok_iff]
      by_cases closed : handle = other
      · simp [← closed, found]
      · simp [closed]
  | ok archive =>
      have closes : (origin.run calls).call (.closeArchive handle) =
          ({ origin.run calls with registry := (origin.run calls).registry.without handle }, .ok .done) := by
        rw [call, Registry.close_of_archive found, enter]
      have given : opened (origin.answers (calls ++ [.closeArchive handle])) =
          opened (origin.answers calls) := by
        simp [closes, opened]
      refine ⟨?_, ?_, fun other kept stood => ?_, fun other kept => ?_⟩
      · rw [given]
        exact tracked.counted
      · rw [run_concat, closes, given]
        exact tracked.next
      · rw [run_concat, closes, Registry.lookup_without] at stood
        rw [run_concat, closes]
        split at stood
        · cases stood
        · exact tracked.known other kept stood
      · rw [run_concat, closes, Registry.lookup_without, reached_concat_iff, ← tracked.stands]
        by_cases closed : other = handle
        · simp [closed]
        · simp [closed, Ne.symm closed]

theorem after (host : Host) (calls : List Call) : Tracked (ofHost host) calls := by
  -- `Reached` looks back over the whole run, so that calls are added behind it.
  induction calls using List.reverseRecOn with
  | nil => exact start host
  | append_singleton calls call tracked =>
      cases call with
      | openArchive id path => exact tracked.openArchive id path
      | closeArchive handle => exact tracked.closeArchive handle
      | _ => exact tracked.keep rfl

end Tracked

/-! ## Runs -/

theorem call_of_unreached (tracked : Tracked origin calls)
    (unreached : ∀ archive, ¬ Reached origin calls handle archive) {call : Call} (names : call.Names handle) :
    (origin.run calls).call call = (origin.run calls, .error .invalidArchiveHandle) := by
  have absent : (origin.run calls).registry.archive handle = .error .invalidArchiveHandle :=
    Registry.archive_of_absent <| Option.eq_none_iff_forall_ne_some.mpr fun archive found =>
      unreached archive ((tracked.stands handle archive).mp found)
  cases call with
  | closeArchive named =>
      cases names
      rw [Console.call, Registry.close, absent, enter]
  | perform named operation =>
      cases names
      rw [Console.call, through, absent]
      rfl
  | freeBytes named =>
      cases names
      rw [Console.call, through, absent]
      rfl
  | rename source sourcePath target targetPath =>
      have refused : (origin.run calls).registry.renameArchive source target = .error .invalidArchiveHandle := by
        rcases names with rfl | rfl
        · rw [Registry.renameArchive, absent]
        · rw [Registry.renameArchive, absent]
          cases found : (origin.run calls).registry.archive source with
          | error code => rw [Registry.archive_error found]
          | ok => rfl
      rw [Console.call, rename, refused]
      rfl
  | _ => cases names

structure Orderly (origin : Console) (calls : List Call) : Prop where
  counts : opened (origin.answers calls) = List.range' 1 (opened (origin.answers calls)).length
  failedOpen : ∀ id path code, ((origin.run calls).call (.openArchive id path)).2 = .error code →
    ((origin.run calls).call (.openArchive id path)).1 = origin.run calls
  accepts : ∀ handle archive, (origin.run calls).registry.archive handle = .ok archive ↔
    Reached origin calls handle archive
  refuses : ∀ handle, (∀ archive, ¬ Reached origin calls handle archive) → ∀ call : Call, call.Names handle →
    (origin.run calls).call call = (origin.run calls, .error .invalidArchiveHandle)
  keeps : ∀ handle archive, Reached origin calls handle archive → ∀ more, .closeArchive handle ∉ more →
    (origin.run (calls ++ more)).registry.archive handle = .ok archive
  performs : ∀ handle archive, Reached origin calls handle archive → ∀ operation,
    (origin.run calls).call (.perform handle operation) =
      ({ origin.run calls with host := (archive.perform (origin.run calls).host operation).1 },
        (archive.perform (origin.run calls).host operation).2.map .outcome)
  renames : ∀ handle archive, Reached origin calls handle archive → ∀ source target,
    (origin.run calls).call (.rename handle source handle target) =
      ({ origin.run calls with host := (archive.rename (origin.run calls).host source target).1 },
        (archive.rename (origin.run calls).host source target).2.map fun () => .done)
  measures : ∀ handle archive, Reached origin calls handle archive →
    (origin.run calls).call (.freeBytes handle) = (origin.run calls, .ok (.size archive.freeBytes))
  closes : ∀ handle archive, Reached origin calls handle archive →
    (origin.run calls).call (.closeArchive handle) =
      ({ origin.run calls with registry := (origin.run calls).registry.without handle }, .ok .done)
  crosses : ∀ source target archive other, Reached origin calls source archive →
    Reached origin calls target other → source ≠ target → ∀ sourcePath targetPath,
    (origin.run calls).call (.rename source sourcePath target targetPath) =
      (origin.run calls, .error .unsupportedOperation)
  registers : ∀ id factory, (origin.run calls).registry.factory id = .ok factory →
    (∀ other, (origin.run calls).call (.register id other) = (origin.run calls, .error .alreadyExists)) ∧
    ∀ more, (origin.run (calls ++ more)).registry.factory id = .ok factory

/-- From an empty registry on, handles count the archives that were opened, each stands for its archive until it
is closed, and a handle that stands for nothing changes nothing. -/
theorem run_orderly (host : Host) (calls : List Call) : Orderly (ofHost host) calls := by
  have tracked := Tracked.after host calls
  have accepts (handle : Nat) (archive : Archive) := Iff.trans Registry.archive_eq_ok_iff
    (tracked.stands handle archive)
  refine {
    counts := tracked.counted
    failedOpen := ?_
    accepts := accepts
    refuses := fun handle unreached call names => call_of_unreached tracked unreached names
    keeps := ?_
    performs := ?_
    renames := ?_
    measures := ?_
    closes := ?_
    crosses := ?_
    registers := ?_ }
  · intro id path code fails
    rw [call_openArchive] at fails ⊢
    split at fails
    · rfl
    · cases fails
  · intro handle archive reached more open_
    exact Registry.archive_eq_ok_iff.mpr (((Tracked.after host _).stands handle archive).mpr
      (reached_append reached open_))
  · intro handle archive reached operation
    rw [call, through, (accepts handle archive).mpr reached]
    rfl
  · intro handle archive reached source target
    rw [call, rename, Registry.renameArchive, (accepts handle archive).mpr reached]
    dsimp only
    rw [if_pos rfl]
    rfl
  · intro handle archive reached
    rw [call, through, (accepts handle archive).mpr reached]
    rfl
  · intro handle archive reached
    rw [call, Registry.close_of_archive ((accepts handle archive).mpr reached), enter]
  · intro source target archive other reached stands distinct sourcePath targetPath
    rw [call, rename, Registry.renameArchive, (accepts source archive).mpr reached,
      (accepts target other).mpr stands]
    dsimp only
    rw [if_neg distinct]
    rfl
  · intro id factory taken
    refine ⟨fun other => ?_, fun more => ?_⟩
    · rw [call, Registry.register_of_taken taken, enter]
    · rw [run_append, Registry.factory_eq_ok_iff]
      exact Registry.lookup_of_prefix (factories_above _ more) (Registry.factory_eq_ok_iff.mp taken)

example : (ofHost (.empty [])).answers
    [.register .sdCard (.sdCard (.ofString "/card") true), .openArchive .sdCard .invalid,
      .openArchive .romFs .invalid, .openArchive .sdCard .invalid, .rename 1 .invalid 2 .invalid,
      .closeArchive 1, .freeBytes 1, .openArchive .sdCard .invalid] =
    [.ok .done, .ok (.handle 1), .error .archiveNotMounted, .ok (.handle 2), .error .unsupportedOperation,
      .ok .done, .error .invalidArchiveHandle, .ok (.handle 3)] := by
  decide

end Handles

end Console

end GuestStorage
