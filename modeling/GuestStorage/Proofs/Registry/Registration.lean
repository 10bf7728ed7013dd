import GuestStorage.Proofs.Registry.Entries
import GuestStorage.Proofs.Registry.Factories

namespace GuestStorage

namespace Registry

theorem registerEach_of_fresh {registry : Registry} {entries : List (ArchiveId × Factory)}
    (distinct : ((registry.factories ++ entries).map (·.1)).Nodup) :
    Console.registerEach registry entries =
      ({ registry with factories := registry.factories ++ entries }, .ok ()) := by
  have outcome := registerEach_registered registry entries
  generalize Console.registerEach registry entries = result at outcome ⊢
  cases outcome with
  | all => rfl
  | upTo stops free refuses =>
      -- An identifier that is refused would stand twice.
      rw [stops, ← List.append_assoc, List.map_append, List.nodup_append] at distinct
      exact absurd rfl (distinct.2.2 _ (isRegistered_iff.mp refuses) _ (List.mem_map_of_mem List.mem_cons_self))

end Registry

namespace Console

variable {before after : Host} {factories : List (ArchiveId × Factory)} {archives : List (Nat × Archive)}
  {nextHandle : Nat} {runningTitle : Option Nat} {titles : Titles} {stage : Stage} {rest : List Stage}

theorem runStages_ready (prepares : stage.prepare.initialise before = (after, true))
    (distinct : ((factories ++ stage.entries).map (·.1)).Nodup) :
    runStages ⟨before, ⟨factories, archives, nextHandle, runningTitle⟩, titles⟩ (stage :: rest) =
      runStages ⟨after, ⟨factories ++ stage.entries, archives, nextHandle, runningTitle⟩, titles⟩ rest := by
  have registers : registerEach ⟨factories, archives, nextHandle, runningTitle⟩ stage.entries = _ :=
    Registry.registerEach_of_fresh distinct
  rw [runStages, prepares]
  simp only [if_true, registers]

theorem runStages_unready (prepares : stage.prepare.initialise before = (after, false)) :
    runStages ⟨before, ⟨factories, archives, nextHandle, runningTitle⟩, titles⟩ (stage :: rest) =
      runStages ⟨after, ⟨factories, archives, nextHandle, runningTitle⟩, titles⟩ rest := by
  rw [runStages, prepares]
  rfl

end Console

/-- Below the two directories there are only directories, and none of them is the home of an instance. -/
structure Config.Bare (config : Config) (origin host : Host) : Prop where
  grounded : origin.Grounded host
  files : ∀ (save : SaveInstance) location, StrictlyBelow (origin.site (save.root config)) location →
    ∀ id, host.tree.find? location ≠ some (.file id)
  absent : ∀ save : SaveInstance, host.tree.find? (save.home config origin) = none

namespace Config.Bare

variable {config : Config} {origin host after : Host} {save : SaveInstance}

theorem ofPrepared (prepared : config.Prepared origin) : config.Bare origin origin where
  grounded := .refl origin
  files save location below id stands := by
    rw [save.root_empty prepared location below] at stands
    cases stands
  absent save := save.root_empty prepared _ (save.home_below config origin)

theorem made {target : Location} (bare : config.Bare origin host) (made : DirectoriesMade target host after)
    (apart : ∀ save : SaveInstance, ¬ save.home config origin <+: target) : config.Bare origin after where
  grounded :=
    ⟨made.workingDirectory.trans bare.grounded.workingDirectory,
      bare.grounded.directories.trans made.keepsDirectories⟩
  files save location below id stands := by
    rcases made.entries location with same | ⟨-, -, directory⟩
    · exact bare.files save location below id (same ▸ stands)
    · rw [directory] at stands
      cases stands
  absent save := (made.same (apart save)).trans (bare.absent save)

theorem clear (bare : config.Bare origin host) (prepared : config.Prepared origin) {names : List String}
    {location : Location} (above : location <+: origin.site (save.root config) ++ names) (id : Nat) :
    host.tree.find? location ≠ some (.file id) := by
  have root : host.tree.find? (origin.site (save.root config)) = some .directory :=
    bare.grounded.directories _ (Host.lookup_eq_ok (Host.entryAt?_eq_some_iff.mp
      (of_decide_eq_true (save.root_directory prepared))))
  rcases List.prefix_or_prefix_of_prefix above (List.prefix_append _ names) with out | inside
  · obtain ⟨rest, whole⟩ := out
    by_cases here : rest = []
    · rw [here, List.append_nil] at whole
      rw [whole, root]
      nofun
    · rw [← whole] at root
      rw [Tree.find?_above rest here root]
      nofun
  · obtain ⟨rest, rfl⟩ := inside
    by_cases here : rest = []
    · rw [here, List.append_nil, root]
      nofun
    · exact bare.files save _ ⟨rest, here, rfl⟩ id

theorem container (bare : config.Bare origin host) (prepared : config.Prepared origin) (holder : SaveInstance)
    {depth : Nat} (short : depth < (holder.names config).length) :
    ∃ after, host.createDirectories ((holder.root config).descendant ((holder.names config).take depth)) =
        (after, .ok ()) ∧
      config.Bare origin after := by
  have ordinary (name : String) (member : name ∈ (holder.names config).take depth) : OrdinaryName name :=
    holder.ordinary_names prepared name (List.mem_of_mem_take member)
  have shallow (save : SaveInstance) : ¬ save.names config <+: (holder.names config).take depth := by
    intro above
    have same := SaveInstance.eq_of_names_above (above.trans (List.take_prefix ..))
    have long := above.length_le
    rw [same, List.length_take] at long
    omega
  have there : host.Addressed (holder.root config) ((holder.names config).take depth) :=
    ⟨Host.isDirectory_of_kept (holder.root_directory prepared) bare.grounded.directories
      bare.grounded.workingDirectory, fun name member => (ordinary name member).names,
      fun name member => (ordinary name member).unterminated⟩
  have made := there.createDirectories_made
  have succeeds := (there.createDirectories_succeeds fun location above =>
    bare.clear prepared (by rwa [SaveInstance.site_eq bare.grounded] at above)).1
  rw [SaveInstance.site_eq bare.grounded] at made
  refine ⟨_, Prod.ext rfl succeeds, bare.made made fun save inside => shallow save ?_⟩
  exact SaveInstance.prefix_of_append (save.root_beside prepared holder) (holder.root_beside prepared save)
    inside

theorem stands (bare : config.Bare origin host) (prepared : config.Prepared origin) (save : SaveInstance) :
    save.Stands config origin host none :=
  .unformatted (bare.absent save) fun _ above id => bare.clear prepared above id

end Config.Bare

namespace Config

/-- The registry serves save data, and titles by the slot of the one that runs. -/
structure Serves (config : Config) (registry : Registry) : Prop where
  saves : ∀ running id path save, SaveInstance.named? running id path = some save →
    registry.factory id = .ok (save.factory config)
  romFs : registry.factory .romFs = .error .archiveNotMounted
  runningTitle : registry.runningTitle = some 0

theorem Serves.withArchives {config : Config} {registry : Registry} (serves : config.Serves registry)
    (archives : List (Nat × Archive)) (nextHandle : Nat) :
    config.Serves { registry with archives, nextHandle } :=
  ⟨serves.saves, serves.romFs, serves.runningTitle⟩

def cardEntries (config : Config) : List (ArchiveId × Factory) :=
  if config.fileSystem.useVirtualCard then
    [(.sdCard, .sdCard (.ofString config.paths.sdCard) true),
      (.sdCardWriteOnly, .sdCardWriteOnly (.ofString config.paths.sdCard))]
  else []

def saveEntries (config : Config) : List (ArchiveId × Factory) :=
  [(.extSaveData, (SaveInstance.extended 0 0).factory config),
    (.sharedExtSaveData, (SaveInstance.shared 0 0).factory config),
    (.systemSaveData, (SaveInstance.system 0 0).factory config),
    (.saveData, (SaveInstance.title 0).factory config)]

theorem nodup_entries (config : Config) :
    ((config.cardEntries ++ config.saveEntries).map (·.1)).Nodup := by
  rw [cardEntries]
  cases config.fileSystem.useVirtualCard <;> exact of_decide_eq_true rfl

theorem serves_entries (config : Config) (archives : List (Nat × Archive)) (nextHandle : Nat) :
    config.Serves ⟨config.cardEntries ++ config.saveEntries, archives, nextHandle, some 0⟩ where
  saves running id path save named := by
    cases id with
    | romFs | sdCard | sdCardWriteOnly => cases named
    | saveData | extSaveData | sharedExtSaveData | systemSaveData =>
        cases named
        cases enabled : config.fileSystem.useVirtualCard <;>
          (rw [Registry.factory, cardEntries, enabled]; rfl)
  romFs := by
    cases enabled : config.fileSystem.useVirtualCard <;> (rw [Registry.factory, cardEntries, enabled]; rfl)
  runningTitle := rfl

end Config

namespace Console

variable {config : Config} {origin host : Host}

theorem cardStage (prepared : config.Prepared origin) (bare : config.Bare origin host) :
    ∃ after, (Factory.sdCard (.ofString config.paths.sdCard) config.fileSystem.useVirtualCard).initialise host =
      (after, config.fileSystem.useVirtualCard) ∧ config.Bare origin after := by
  cases enabled : config.fileSystem.useVirtualCard with
  | false => exact ⟨host, rfl, bare⟩
  | true =>
      obtain ⟨after, makes, bare⟩ := bare.container prepared (.title 0) (show 0 < 7 by decide)
      refine ⟨after, ?_, bare⟩
      have makes : host.createDirectories (.ofString config.paths.sdCard) = (after, .ok ()) := makes
      rw [Factory.initialise, if_pos rfl, makes]
      rfl

theorem extStage (prepared : config.Prepared origin) (bare : config.Bare origin host) :
    ∃ after, ((SaveInstance.extended 0 0).factory config).initialise host = (after, true) ∧
      config.Bare origin after := by
  obtain ⟨after, makes, bare⟩ := bare.container prepared (.extended 0 0) (show 4 < 6 by decide)
  refine ⟨after, ?_, bare⟩
  have place : Layout.extContainer (.ofString config.paths.sdCard) false config.fileSystem.systemId
      config.fileSystem.cardId = (HostPath.ofString config.paths.sdCard).descendant
        (((SaveInstance.extended 0 0).names config).take 4) := by
    rw [Layout.extContainer, SaveInstance.cardContainer_eq prepared]
    rfl
  have makes : host.createDirectories (Layout.extContainer (.ofString config.paths.sdCard) false
      config.fileSystem.systemId config.fileSystem.cardId) = (after, .ok ()) := place ▸ makes
  rw [SaveInstance.factory, Factory.initialise, makes]
  rfl

theorem sharedStage (prepared : config.Prepared origin) (bare : config.Bare origin host) :
    ∃ after, ((SaveInstance.shared 0 0).factory config).initialise host = (after, true) ∧
      config.Bare origin after := by
  obtain ⟨after, makes, bare⟩ := bare.container prepared (.shared 0 0) (show 3 < 5 by decide)
  refine ⟨after, ?_, bare⟩
  have place : Layout.extContainer (.ofString config.paths.nand) true config.fileSystem.systemId
      config.fileSystem.cardId = (HostPath.ofString config.paths.nand).descendant
        (((SaveInstance.shared 0 0).names config).take 3) := by
    rw [Layout.extContainer, SaveInstance.nandContainer_eq prepared]
    rfl
  have makes : host.createDirectories (Layout.extContainer (.ofString config.paths.nand) true
      config.fileSystem.systemId config.fileSystem.cardId) = (after, .ok ()) := place ▸ makes
  rw [SaveInstance.factory, Factory.initialise, makes]
  rfl

theorem cardStage_registers (prepared : config.Prepared origin) (stages : List Stage) :
    ∃ host, runStages ⟨origin, .empty, [0]⟩
        (⟨.sdCard (.ofString config.paths.sdCard) config.fileSystem.useVirtualCard,
          [(.sdCard, .sdCard (.ofString config.paths.sdCard) config.fileSystem.useVirtualCard),
            (.sdCardWriteOnly, .sdCardWriteOnly (.ofString config.paths.sdCard))]⟩ :: stages) =
        runStages ⟨host, ⟨config.cardEntries, [], 1, none⟩, [0]⟩ stages ∧
      config.Bare origin host := by
  obtain ⟨host, prepares, bare⟩ := cardStage prepared (.ofPrepared prepared)
  refine ⟨host, ?_, bare⟩
  rw [Config.cardEntries]
  cases enabled : config.fileSystem.useVirtualCard with
  | true =>
      rw [enabled] at prepares
      exact runStages_ready prepares (of_decide_eq_true rfl)
  | false =>
      rw [enabled] at prepares
      exact runStages_unready prepares

theorem runStages_default (prepared : config.Prepared origin) :
    ∃ host, runStages ⟨origin, .empty, [0]⟩ (defaultStages config 0) =
        (⟨host, ⟨config.cardEntries ++ config.saveEntries, [], 1, none⟩, [0]⟩, .ok ()) ∧
      config.Bare origin host := by
  obtain ⟨first, card, bare⟩ := cardStage_registers prepared (defaultStages config 0).tail
  obtain ⟨second, ext, bare⟩ := extStage prepared bare
  obtain ⟨third, shared, bare⟩ := sharedStage prepared bare
  refine ⟨third, card.trans ?_, bare⟩
  have distinct {entries : List (ArchiveId × Factory)}
      (front : entries <+: config.cardEntries ++ config.saveEntries) : (entries.map (·.1)).Nodup :=
    config.nodup_entries.sublist (front.sublist.map _)
  have stages : (defaultStages config 0).tail = config.saveEntries.map fun entry => ⟨entry.2, [entry]⟩ := rfl
  rw [stages]
  simp only [Config.saveEntries, List.map_cons, List.map_nil] at distinct ⊢
  rw [runStages_ready ext (distinct (by simp)), runStages_ready shared (distinct (by simp)),
    runStages_ready rfl (distinct (by simp)), runStages_ready rfl (distinct (by simp))]
  simp [runStages]

theorem registerDefaults_prepared (prepared : config.Prepared origin) :
    ∃ host, registerDefaults (.ofHost origin) config =
        (⟨host, ⟨config.cardEntries ++ config.saveEntries, [], 1, some 0⟩, [0]⟩, .ok ()) ∧
      config.Bare origin host := by
  obtain ⟨host, runs, bare⟩ := runStages_default prepared
  refine ⟨host, ?_, bare⟩
  rw [registerDefaults]
  simp only [ofHost, List.length_nil, List.nil_append, runs]

end Console

end GuestStorage
