import GuestStorage.Proofs.Registry.ConsoleSessions

/-!
# Instances of save data keep to themselves

A session that starts on two empty directories stays `Consistent`: every instance stands as it was last
formatted, an archive that is open is that of the instance it was opened for, and only names inside an instance
lead to the files that were opened through it. Every request keeps this and changes at most the home of the
instance that it belongs to (`Step`).
-/

namespace GuestStorage

namespace SaveInstance

variable {config : Config} {origin host after : Host} {save other : SaveInstance} {id : Nat}

theorem site_mount (prepared : config.Prepared origin) (grounded : origin.Grounded host) (save : SaveInstance) :
    host.site (save.mount config).mountPoint = save.area config origin := by
  have there := addressed prepared grounded save (inner_literals save)
  rw [mount, Host.site_descendant host (save.root config) there.proper, site_path config grounded, area]

/-! ## Files of an instance -/

/-- No name leads to the file but in what the guest sees of the instance. -/
structure Owns (config : Config) (origin host : Host) (save : SaveInstance) (id : Nat) : Prop where
  stored : id < host.files.length
  inside : OnlyInside (save.area config origin) host id

namespace Owns

theorem within (owns : Owns config origin host save id)
    (changed : ChangedBelow (save.area config origin) host after) : Owns config origin after save id where
  stored := Nat.lt_of_lt_of_le owns.stored changed.grows
  inside := owns.inside.transfer changed.sameOutside

theorem reshaped {home : Location} (owns : Owns config origin host save id)
    (reshaped : Reshaped home host after) : Owns config origin after save id where
  stored := Nat.lt_of_lt_of_le owns.stored reshaped.grows
  inside location outside stands := by
    rcases reshaped.stays location id stands with stood | new
    · exact owns.inside location outside stood
    · exact Nat.not_lt.mpr new owns.stored

theorem beside (owns : Owns config origin host save id) (prepared : config.Prepared origin)
    (distinct : save ≠ other) (changed : ChangedWithin (other.home config origin) host after) :
    Owns config origin after save id where
  stored := Nat.lt_of_lt_of_le owns.stored changed.grows
  inside location outside stands := by
    -- Renaming brings no file from elsewhere: the file had a name before, and that one is still there.
    have known : id ∈ fileIds host.tree.entries :=
      (changed.fresh id (Tree.mem_fileIds_of_find? stands)).resolve_right (Nat.not_le.mpr owns.stored)
    obtain ⟨former, stood⟩ := Tree.mem_fileIds_iff.mp known
    have below : StrictlyBelow (save.area config origin) former :=
      Classical.byContradiction fun elsewhere => owns.inside former elsewhere stood
    have home : save.home config origin <+: former := by
      obtain ⟨rest, -, rfl⟩ := below
      exact (List.prefix_append ..).trans (List.prefix_append ..)
    have kept := (changed.untouched (home_apart prepared distinct.symm) (home_apart prepared distinct)).entries
      former home
    exact outside (Tree.file_location_unique (kept.trans stood) stands ▸ below)

end Owns

end SaveInstance

namespace ConsoleSession

variable {config : Config} {origin : Host} {session next : ConsoleSession}

theorem note_of_named {α : Type} {id : ArchiveId} {path : GuestPath} {save : SaveInstance}
    (named : SaveInstance.named? session.running id path = some save) (make : SaveInstance → α)
    (record : List α) : session.note id path make record = make save :: record := by
  rw [note, named]
  rfl

/-! ## What holds all along -/

structure Consistent (config : Config) (origin : Host) (session : ConsoleSession) : Prop where
  grounded : origin.Grounded session.console.host
  serves : config.Serves session.console.registry
  titles : session.console.titles = [session.running]
  stands : ∀ save : SaveInstance,
    save.Stands config origin session.console.host (session.lastFormat save)
  archives : ∀ handle archive, session.console.registry.archives.lookup handle = some archive →
    ∃ save, session.owners.lookup handle = some save ∧ archive = .mounted (save.mount config)
  files : ∀ file ∈ session.files, ∀ id, file.handle.held? = some (.file id) →
    ∃ save, file.owner = some save ∧ save.Owns config origin session.console.host id

/-- A step that keeps all this and changes at most the home of one instance. -/
structure Step (config : Config) (origin : Host) (session : ConsoleSession) (subject : Option SaveInstance)
    (next : ConsoleSession) : Prop where
  consistent : Consistent config origin next
  changes : next.console.host = session.console.host ∨
    ∃ save, subject = some save ∧
      ChangedWithin (save.home config origin) session.console.host next.console.host

namespace Step

theorem still {subject : Option SaveInstance} (consistent : Consistent config origin next)
    (same : next.console.host = session.console.host) : Step config origin session subject next :=
  ⟨consistent, .inl same⟩

theorem untouched {subject : Option SaveInstance} {other : SaveInstance}
    (step : Step config origin session subject next) (prepared : config.Prepared origin)
    (distinct : subject ≠ some other) :
    Untouched (other.home config origin) session.console.host next.console.host := by
  rcases step.changes with same | ⟨save, rfl, changed⟩
  · rw [same]
    exact .refl _ _
  · have apart : save ≠ other := fun same => distinct (congrArg some same)
    exact changed.untouched (SaveInstance.home_apart prepared apart)
      (SaveInstance.home_apart prepared apart.symm)

end Step

namespace Consistent

variable {save : SaveInstance} {after : Host}

theorem start (prepared : config.Prepared origin) :
    Consistent config origin (ConsoleSession.start config origin) := by
  obtain ⟨host, registers, bare⟩ := Console.registerDefaults_prepared prepared
  rw [ConsoleSession.start, registers]
  exact {
    grounded := bare.grounded
    serves := config.serves_entries [] 1
    titles := rfl
    stands := bare.stands prepared
    archives := nofun
    files := fun _ member => absurd member List.not_mem_nil }

theorem within (consistent : Consistent config origin session) (prepared : config.Prepared origin)
    (changed : ChangedBelow (save.area config origin) session.console.host after) :
    Step config origin session (some save) (session.withHost after) := by
  have concerns : ChangedWithin (save.home config origin) session.console.host after :=
    changed.changedWithin (List.prefix_append ..)
  refine ⟨⟨?_, consistent.serves, consistent.titles, fun other => ?_, consistent.archives,
    fun file member id holds => ?_⟩, .inr ⟨save, rfl, concerns⟩⟩
  · exact SaveInstance.grounded_of_changedWithin prepared consistent.grounded concerns
  · by_cases same : other = save
    · subst same
      exact (consistent.stands other).within changed.sameOutside
    · exact (consistent.stands other).beside prepared same concerns
  · obtain ⟨other, owner, owns⟩ := consistent.files file member id holds
    refine ⟨other, owner, ?_⟩
    by_cases same : other = save
    · subst same
      exact owns.within changed
    · exact owns.beside prepared same concerns

/-! ## Requests for archives -/

variable {id : ArchiveId} {path : GuestPath}

theorem meant (consistent : Consistent config origin session) :
    session.console.titles.get 0 = session.running := by
  rw [consistent.titles]
  rfl

theorem factory_eq (consistent : Consistent config origin session)
    (named : SaveInstance.named? session.running id path = some save) :
    session.console.registry.factory id = .ok (save.factory config) :=
  consistent.serves.saves _ _ _ _ named

theorem romFs_of_unnamed {running : UInt64} (unnamed : SaveInstance.named? running id path = none)
    (offCard : (id ≠ .sdCard && id ≠ .sdCardWriteOnly) = true) : id = .romFs := by
  cases id with
  | romFs => rfl
  | saveData | extSaveData | sharedExtSaveData | systemSaveData => cases unnamed
  | sdCard | sdCardWriteOnly => cases offCard

theorem openArchive_eq (consistent : Consistent config origin session) (prepared : config.Prepared origin)
    (named : SaveInstance.named? session.running id path = some save) :
    ∃ code, session.console.openArchive id path =
      if (session.lastFormat save).isSome then
        .ok ({ session.console with registry := (session.console.registry.add (.mounted (save.mount config))).1 },
          (session.console.registry.add (.mounted (save.mount config))).2)
      else .error code := by
  obtain ⟨code, opens⟩ := SaveInstance.openArchive_eq prepared consistent.grounded
    (by rw [consistent.meant]; exact named) (consistent.stands save)
  refine ⟨code, ?_⟩
  rw [Console.openArchive, consistent.factory_eq named]
  dsimp only
  rw [opens]
  cases session.lastFormat save <;> rfl

theorem formatInfo_eq (consistent : Consistent config origin session) (prepared : config.Prepared origin)
    (named : SaveInstance.named? session.running id path = some save) (remembers : save.remembers = true) :
    session.console.formatInfo id path = (session.lastFormat save).elim (.error .notFormatted) .ok := by
  rw [Console.formatInfo, consistent.factory_eq named]
  exact SaveInstance.formatInfo_eq prepared consistent.grounded
    (by rw [consistent.meant]; exact named) remembers (consistent.stands save)

theorem format_eq (consistent : Consistent config origin session) (prepared : config.Prepared origin)
    (named : SaveInstance.named? session.running id path = some save) (info : FormatInfo) :
    ∃ after, session.console.format id path info = ({ session.console with host := after }, .ok ()) ∧
      Reshaped (save.home config origin) session.console.host after ∧
      save.Stands config origin after (some info) := by
  obtain ⟨after, formats, reshaped, stands⟩ := SaveInstance.format_eq prepared consistent.grounded
    (by rw [consistent.meant]; exact named) (consistent.stands save) info
  refine ⟨after, ?_, reshaped, stands⟩
  rw [Console.format, consistent.factory_eq named]
  dsimp only
  rw [formats]

theorem opened (consistent : Consistent config origin session) (save : SaveInstance) :
    Consistent config origin { session with
      console := { session.console with
        registry := (session.console.registry.add (.mounted (save.mount config))).1 }
      owners := (session.console.registry.nextHandle, save) :: session.owners } := by
  refine { consistent with
    serves := consistent.serves.withArchives _ _
    archives := fun handle archive found => ?_ }
  dsimp only [Registry.add] at found ⊢
  by_cases newest : handle = session.console.registry.nextHandle
  · subst newest
    rw [List.lookup_cons_self] at found
    exact ⟨save, List.lookup_cons_self, (Option.some.inj found).symm⟩
  · rw [List.lookup_cons, beq_eq_false_iff_ne.mpr newest] at found ⊢
    exact consistent.archives handle archive found

theorem openArchive (consistent : Consistent config origin session) (prepared : config.Prepared origin)
    (offCard : (id ≠ .sdCard && id ≠ .sdCardWriteOnly) = true) (path : GuestPath) :
    Step config origin session none (session.act (.openArchive id path)) := by
  cases named : SaveInstance.named? session.running id path with
  | none =>
      have missing := consistent.serves.romFs
      rw [act, Console.openArchive, romFs_of_unnamed named offCard, missing]
      exact .still consistent rfl
  | some save =>
      obtain ⟨code, opens⟩ := consistent.openArchive_eq prepared named
      rw [act, opens]
      cases session.lastFormat save with
      | none => exact .still consistent rfl
      | some =>
          rw [Option.isSome_some, if_pos rfl]
          dsimp only
          rw [note_of_named named]
          exact .still (consistent.opened save) rfl

theorem closeArchive (consistent : Consistent config origin session) (handle : Nat) :
    Step config origin session none (session.act (.closeArchive handle)) := by
  rw [act, Registry.close]
  cases session.console.registry.archive handle with
  | error => exact .still consistent rfl
  | ok =>
      refine .still { consistent with
        serves := consistent.serves.withArchives _ _
        archives := fun other archive found => ?_ } rfl
      have remaining := Tree.lookup_filter_keys (fun place => decide (place ≠ handle))
        session.console.registry.archives other
      refine consistent.archives other archive ?_
      split at remaining
      · rw [← remaining]
        exact found
      · cases remaining.symm.trans found

theorem setProgramId (consistent : Consistent config origin session) (programId : UInt64) :
    Step config origin session none (session.act (.setProgramId programId)) := by
  rw [act, Console.setProgramId, consistent.serves.runningTitle]
  refine .still { consistent with titles := ?_ } rfl
  dsimp only
  rw [consistent.titles]
  rfl

theorem format (consistent : Consistent config origin session) (prepared : config.Prepared origin)
    (offCard : (id ≠ .sdCard && id ≠ .sdCardWriteOnly) = true) (path : GuestPath) (info : FormatInfo) :
    Step config origin session (session.subject (.format id path info))
      (session.act (.format id path info)) := by
  rw [subject]
  cases named : SaveInstance.named? session.running id path with
  | none =>
      have missing := consistent.serves.romFs
      rw [act, Console.format, romFs_of_unnamed named offCard, missing]
      exact .still consistent rfl
  | some save =>
      obtain ⟨after, formats, reshaped, settled⟩ := consistent.format_eq prepared named info
      have concerns := reshaped.changedWithin
      rw [act, formats]
      -- Handles stay open across formatting, also those of the instance itself.
      refine ⟨⟨?_, consistent.serves, consistent.titles, fun other => ?_, consistent.archives,
        fun file member id holds => ?_⟩, .inr ⟨save, rfl, concerns⟩⟩
      · exact SaveInstance.grounded_of_changedWithin prepared consistent.grounded concerns
      · rw [lastFormat, note_of_named named, List.lookup_cons]
        by_cases same : other = save
        · subst same
          rw [beq_self_eq_true]
          exact settled
        · rw [beq_eq_false_iff_ne.mpr same]
          exact (consistent.stands other).beside prepared same concerns
      · obtain ⟨other, owner, owns⟩ := consistent.files file member id holds
        exact ⟨other, owner, owns.reshaped reshaped⟩

/-! ## Requests for files -/

theorem performed (consistent : Consistent config origin session) (prepared : config.Prepared origin)
    (save : SaveInstance) (operation : Mount.Operation) :
    Step config origin session (some save)
      (session.withHost ((save.mount config).perform session.console.host operation).1) := by
  have changed := ((save.mount config).perform_performed session.console.host operation).changedBelow
  rw [SaveInstance.site_mount prepared consistent.grounded] at changed
  exact consistent.within prepared changed

theorem perform (consistent : Consistent config origin session) (prepared : config.Prepared origin)
    (handle : Nat) (operation : Mount.Operation) :
    Step config origin session (session.owners.lookup handle) (session.act (.perform handle operation)) := by
  rw [act, Console.through, Registry.archive]
  cases found : session.console.registry.archives.lookup handle with
  | none => exact .still consistent rfl
  | some archive =>
      obtain ⟨save, owner, rfl⟩ := consistent.archives handle archive found
      have step := consistent.performed prepared save operation
      have performed := (save.mount config).perform_performed session.console.host operation
      dsimp only
      rw [owner, Archive.perform_mounted]
      cases answer : (save.mount config).perform session.console.host operation with
      | mk host result =>
          rw [answer] at step performed
          match result with
          | .error _ => exact step
          | .ok .done => exact step
          | .ok (.listing _) => exact ⟨{ step.consistent with }, step.changes⟩
          | .ok (.file opened) =>
              refine ⟨{ step.consistent with files := fun file member id holds => ?_ }, step.changes⟩
              rcases List.mem_append.mp member with old | new
              · exact step.consistent.files file old id holds
              · obtain rfl := List.mem_singleton.mp new
                have inside := performed.onlyInside holds
                rw [SaveInstance.site_mount prepared consistent.grounded] at inside
                exact ⟨save, rfl, performed.stored holds, inside⟩

theorem rename (consistent : Consistent config origin session) (prepared : config.Prepared origin)
    (source : Nat) (sourcePath : GuestPath) (target : Nat) (targetPath : GuestPath) :
    Step config origin session (session.owners.lookup source)
      (session.act (.rename source sourcePath target targetPath)) := by
  rw [act, Console.rename, Registry.renameArchive, Registry.archive, Registry.archive]
  cases found : session.console.registry.archives.lookup source with
  | none => exact .still consistent rfl
  | some archive =>
      obtain ⟨save, owner, rfl⟩ := consistent.archives source archive found
      rw [owner]
      cases session.console.registry.archives.lookup target with
      | none => exact .still consistent rfl
      | some =>
          by_cases same : source = target
          · dsimp only
            rw [if_pos same]
            exact consistent.performed prepared save (.rename sourcePath targetPath)
          · dsimp only
            rw [if_neg same]
            exact .still consistent rfl

theorem set (consistent : Consistent config origin session) {index : Nat} {file : HeldFile}
    (member : file ∈ session.files) {handle : FileHandle}
    (holds : ∀ id, handle.held? = some (.file id) → file.handle.held? = some (.file id)) :
    Consistent config origin { session with files := session.files.set index { file with handle } } :=
  { consistent with
    files := forall_mem_set consistent.files fun id stands => consistent.files file member id (holds id stands) }

theorem written (consistent : Consistent config origin session) (prepared : config.Prepared origin)
    {file : HeldFile} (member : file ∈ session.files)
    (changes : file.handle.Changes session.console.host after) :
    Step config origin session file.owner (session.withHost after) := by
  rcases changes with rfl | ⟨id, contents, holds, rfl⟩
  · exact .still consistent rfl
  · obtain ⟨save, owner, owns⟩ := consistent.files file member id holds
    rw [owner]
    exact consistent.within prepared (ChangedBelow.unchanged.written owns.inside contents)

theorem throughFile {index : Nat} {act : HeldFile → ConsoleSession}
    (consistent : Consistent config origin session)
    (steps : ∀ file ∈ session.files, Step config origin session file.owner (act file)) :
    Step config origin session (session.files[index]?.bind (·.owner))
      (throughHandle session.files index session act) := by
  refine throughHandle_cases (.still consistent rfl) fun file found => ?_
  rw [found]
  exact steps file (List.mem_of_getElem? found)

/-! ## All requests -/

theorem act (consistent : Consistent config origin session) (prepared : config.Prepared origin)
    {request : Request} (offCard : request.offCard = true) :
    Step config origin session (session.subject request) (session.act request) := by
  cases request with
  | openArchive id path => exact consistent.openArchive prepared offCard path
  | closeArchive handle => exact consistent.closeArchive handle
  | format id path info => exact consistent.format prepared offCard path info
  | setProgramId programId => exact consistent.setProgramId programId
  | perform handle operation => exact consistent.perform prepared handle operation
  | rename source sourcePath target targetPath =>
      exact consistent.rename prepared source sourcePath target targetPath
  | read index offset buffer =>
      refine consistent.throughFile fun file member => .still (consistent.set member fun id holds => ?_) rfl
      simpa using holds
  | write index offset data =>
      refine consistent.throughFile fun file member => ?_
      split
      · exact .still consistent rfl
      · exact consistent.written prepared member (FileHandle.changes_of_write ‹_›)
  | resize index size =>
      refine consistent.throughFile fun file member => ?_
      split
      · exact .still consistent rfl
      · exact consistent.written prepared member (FileHandle.changes_of_setSize ‹_›)
  | flush index => exact consistent.throughFile fun file _ => .still consistent rfl
  | closeFile index =>
      refine consistent.throughFile fun file member => .still (consistent.set member fun id holds => ?_) rfl
      simp at holds
  | list index count =>
      refine throughHandle_cases (.still consistent rfl) fun listing _ => ?_
      split
      · exact .still consistent rfl
      · exact .still { consistent with } rfl

theorem run (prepared : config.Prepared origin) {requests : List Request}
    (offCard : ∀ request ∈ requests, request.offCard = true) :
    Consistent config origin (ConsoleSession.run config origin requests) := by
  have onward {rest : List Request} {session : ConsoleSession} (consistent : Consistent config origin session)
      (allowed : ∀ request ∈ rest, request.offCard = true) :
      Consistent config origin (rest.foldl ConsoleSession.act session) := by
    induction rest generalizing session with
    | nil => exact consistent
    | cons request rest ih =>
        have step := consistent.act prepared (allowed request List.mem_cons_self)
        exact ih step.consistent fun other member => allowed other (List.mem_cons_of_mem _ member)
  exact onward (.start prepared) offCard

end Consistent

/-- Archives are registered on two empty directories. After every run an instance opens if and only if it was
formatted; it can be formatted, and tells how it was last if it remembers; every archive that is open shows a
directory in the home of the instance it was opened for; and whatever is asked next, the homes of the instances
to which that does not belong stay as they are. -/
theorem run_isolated (prepared : config.Prepared origin) (requests : List Request)
    (offCard : ∀ request ∈ requests, request.offCard = true) :
    ((Console.ofHost origin).registerDefaults config).2 = .ok () ∧
      (∀ id path save, SaveInstance.named? (run config origin requests).running id path = some save →
        ((run config origin requests).console.openArchive id path).isOk =
            ((run config origin requests).lastFormat save).isSome ∧
          (∀ info, ((run config origin requests).console.format id path info).2 = .ok ()) ∧
          (save.remembers = true → (run config origin requests).console.formatInfo id path =
            ((run config origin requests).lastFormat save).elim (.error .notFormatted) .ok)) ∧
      (∀ handle archive, (run config origin requests).console.registry.archive handle = .ok archive →
        ∃ save mount, (run config origin requests).owners.lookup handle = some save ∧
          archive = .mounted mount ∧
          (run config origin requests).console.host.site mount.mountPoint = save.area config origin) ∧
      ∀ request, request.offCard = true → ∀ other : SaveInstance,
        (run config origin requests).subject request ≠ some other →
          Untouched (other.home config origin) (run config origin requests).console.host
            ((run config origin requests).act request).console.host := by
  have consistent := Consistent.run prepared offCard
  refine ⟨?_, fun id path save named => ⟨?_, fun info => ?_, fun remembers => ?_⟩, fun handle archive found => ?_,
    fun request allowed other distinct => ?_⟩
  · obtain ⟨host, registers, -⟩ := Console.registerDefaults_prepared prepared
    rw [registers]
  · obtain ⟨code, opens⟩ := consistent.openArchive_eq prepared named
    rw [opens]
    cases (run config origin requests).lastFormat save <;> rfl
  · obtain ⟨after, formats, -⟩ := consistent.format_eq prepared named info
    rw [formats]
  · exact consistent.formatInfo_eq prepared named remembers
  · rw [Registry.archive] at found
    split at found
    · cases found
    · rename_i present
      cases found
      obtain ⟨save, owner, shows⟩ := consistent.archives handle archive present
      exact ⟨save, save.mount config, owner, shows, SaveInstance.site_mount prepared consistent.grounded save⟩
  · exact (consistent.act prepared allowed).untouched prepared distinct

/-! ### Two media -/

def twoMedia : Host := ((Host.empty []).addDirectory ["sd"]).addDirectory ["nand"]

def mediaSettings : Config := ⟨⟨"/sd", "/nand"⟩, .standard, .standard⟩

theorem site_twoMedia :
    twoMedia.site (.ofString mediaSettings.paths.sdCard) = ["sd"] ∧
      twoMedia.site (.ofString mediaSettings.paths.nand) = ["nand"] := by
  decide +kernel

theorem find?_twoMedia {name : String} {location : Location} (below : StrictlyBelow [name] location) :
    twoMedia.tree.find? location = none := by
  obtain ⟨rest, nonempty, rfl⟩ := below
  have entries : twoMedia.tree.entries = [(["nand"], .directory), (["sd"], .directory)] := by decide +kernel
  have apart (other : String) : [name] ++ rest ≠ [other] := by simp [nonempty]
  rw [Tree.find?_of_ne (by simp), entries, List.lookup_cons, beq_eq_false_iff_ne.mpr (apart _),
    List.lookup_cons, beq_eq_false_iff_ne.mpr (apart _)]
  rfl

theorem prepared_twoMedia : mediaSettings.Prepared twoMedia where
  card := by decide +kernel
  nand := by decide +kernel
  cardEmpty location below := find?_twoMedia (site_twoMedia.1 ▸ below)
  nandEmpty location below := find?_twoMedia (site_twoMedia.2 ▸ below)
  cardBeside := by
    rw [site_twoMedia.1, site_twoMedia.2]
    rintro ⟨rest, -, whole⟩
    simp at whole
  nandBeside := by
    rw [site_twoMedia.1, site_twoMedia.2]
    rintro ⟨rest, -, whole⟩
    simp at whole
  systemId := by decide +kernel
  cardId := by decide +kernel

def formattings : List Request :=
  [.setProgramId 1, .format .saveData .empty ⟨512, 2, 3, 0, 0, 0, 0⟩, .openArchive .saveData .empty,
    .setProgramId 2, .perform 1 (.createFile (.char "/a") 4), .setProgramId 1]

theorem run_isolated_twoMedia :
    ((run mediaSettings twoMedia formattings).console.openArchive .saveData .empty).isOk = true ∧
      ((run mediaSettings twoMedia formattings).console.openArchive .systemSaveData .empty).isOk = false ∧
      (run mediaSettings twoMedia formattings).console.formatInfo .saveData .empty =
        .ok ⟨512, 2, 3, 0, 0, 0, 0⟩ ∧
      Untouched ((SaveInstance.extended 0 0).home mediaSettings twoMedia)
        (run mediaSettings twoMedia formattings).console.host
        ((run mediaSettings twoMedia formattings).act (.perform 1 (.deleteFile (.char "/a")))).console.host := by
  have formatted : (run mediaSettings twoMedia formattings).lastFormat (.title 1) =
      some ⟨512, 2, 3, 0, 0, 0, 0⟩ := by decide +kernel
  have other : (run mediaSettings twoMedia formattings).lastFormat (.system 0 0) = none := by decide +kernel
  have running : (run mediaSettings twoMedia formattings).running = 1 := by decide +kernel
  obtain ⟨-, asked, -, apart⟩ := run_isolated prepared_twoMedia formattings (by decide)
  obtain ⟨opens, -, tells⟩ := asked .saveData .empty (.title 1) (by rw [running]; rfl)
  obtain ⟨refuses, -, -⟩ := asked .systemSaveData .empty (.system 0 0) (by rw [running]; rfl)
  rw [formatted] at opens tells
  rw [other] at refuses
  have belongs : (run mediaSettings twoMedia formattings).subject (.perform 1 (.deleteFile (.char "/a"))) ≠
      some (.extended 0 0) := by decide +kernel
  exact ⟨opens, refuses, tells rfl, apart _ rfl _ belongs⟩

end ConsoleSession

end GuestStorage
