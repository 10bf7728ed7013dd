import GuestStorage.Proofs.Registry.Formatting

namespace GuestStorage.SaveInstance

def factory (config : Config) : SaveInstance → Factory
  | title _ =>
    .saveData (Layout.titleContainer (.ofString config.paths.sdCard) config.fileSystem.systemId
      config.fileSystem.cardId) 0
  | extended .. =>
    .extSaveData (Layout.extContainer (.ofString config.paths.sdCard) false config.fileSystem.systemId
      config.fileSystem.cardId) false
  | shared .. =>
    .extSaveData (Layout.extContainer (.ofString config.paths.nand) true config.fileSystem.systemId
      config.fileSystem.cardId) true
  | system .. => .systemSaveData (Layout.systemContainer (.ofString config.paths.nand) config.fileSystem.systemId)

variable {config : Config} {origin host : Host} {save : SaveInstance} {old : Option FormatInfo}

theorem cardContainer_eq (prepared : config.Prepared origin) (card : HostPath) :
    Layout.cardContainer card config.fileSystem.systemId config.fileSystem.cardId =
      card.descendant ["Nintendo 3DS", config.fileSystem.systemId, config.fileSystem.cardId] := by
  rw [Layout.cardContainer, Layout.joinText_eq_child prepared.systemId,
    Layout.joinText_eq_child prepared.cardId]
  rfl

theorem nandContainer_eq (prepared : config.Prepared origin) (nand : HostPath) :
    Layout.nandContainer nand config.fileSystem.systemId =
      nand.descendant ["data", config.fileSystem.systemId] := by
  rw [Layout.nandContainer, Layout.joinText_eq_child prepared.systemId]
  rfl

theorem path_title (prepared : config.Prepared origin) (programId : UInt64) (name : String) :
    (Layout.titleData (Layout.titleContainer (.ofString config.paths.sdCard) config.fileSystem.systemId
      config.fileSystem.cardId) programId).child name = (title programId).path config [name] := by
  rw [Layout.titleContainer, cardContainer_eq prepared]
  rfl

theorem path_extended (prepared : config.Prepared origin) (path : GuestPath) (name : String) :
    (Layout.extInstance (Layout.extContainer (.ofString config.paths.sdCard) false config.fileSystem.systemId
      config.fileSystem.cardId) path).child name =
      (extended (path.word 2) (path.word 1)).path config [name] := by
  rw [Layout.extContainer, cardContainer_eq prepared]
  rfl

theorem path_shared (prepared : config.Prepared origin) (path : GuestPath) (name : String) :
    (Layout.extInstance (Layout.extContainer (.ofString config.paths.nand) true config.fileSystem.systemId
      config.fileSystem.cardId) path).child name =
      (shared (path.word 2) (path.word 1)).path config [name] := by
  rw [Layout.extContainer, nandContainer_eq prepared]
  rfl

theorem path_system (prepared : config.Prepared origin) (path : GuestPath) :
    Layout.systemInstance (Layout.systemContainer (.ofString config.paths.nand) config.fileSystem.systemId)
      path = (system (path.word 0) (path.word 1)).path config [] := by
  rw [Layout.systemInstance, Layout.systemContainer, nandContainer_eq prepared, SaveInstance.path,
    List.append_nil]
  simp only [names, root, HostPath.descendant, List.foldl_cons, List.foldl_nil]

theorem seen_eq (prepared : config.Prepared origin) (grounded : origin.Grounded host)
    (stands : Stands config origin host save old) :
    host.hasEntry (save.path config save.inner) = old.isSome ∧
      host.isDirectory (save.path config save.inner) = old.isSome := by
  have there := addressed prepared grounded save (inner_literals save)
  rw [path, there.hasEntry_eq, there.isDirectory_eq, site_path config grounded]
  cases stands with
  | unformatted absent =>
      have missing : host.tree.find? (save.home config origin ++ save.inner) = none := by
        by_cases here : save.inner = []
        · rw [here, List.append_nil, absent]
        · exact Tree.find?_of_blocked (by simp [absent]) here
      simp [missing]
  | formatted mounted =>
      rw [area] at mounted
      simp [mounted]

variable {titles : Titles} {id : ArchiveId} {path : GuestPath}

theorem openArchive_eq (prepared : config.Prepared origin) (grounded : origin.Grounded host)
    (named : named? (titles.get 0) id path = some save) (stands : Stands config origin host save old) :
    ∃ code, (save.factory config).openArchive titles host path =
      if old.isSome then .ok (.mounted (save.mount config)) else .error code := by
  obtain ⟨present, directory⟩ := seen_eq prepared grounded stands
  cases id with
  | romFs | sdCard | sdCardWriteOnly => cases named
  | saveData =>
      cases named
      have place := path_title prepared (titles.get 0) "00000001"
      refine ⟨.notFormatted, ?_⟩
      simp only [factory, Factory.openArchive, Layout.titleInstance, place]
      rw [show host.isDirectory ((title (titles.get 0)).path config ["00000001"]) = old.isSome from directory]
      rfl
  | extSaveData =>
      cases named
      have place := path_extended prepared path "user"
      refine ⟨.notFoundInvalidState, ?_⟩
      simp only [factory, Factory.openArchive, place]
      rw [show host.hasEntry ((extended (path.word 2) (path.word 1)).path config ["user"]) = old.isSome from present]
      rfl
  | sharedExtSaveData =>
      cases named
      have place := path_shared prepared path "user"
      refine ⟨.notFormatted, ?_⟩
      simp only [factory, Factory.openArchive, place]
      rw [show host.hasEntry ((shared (path.word 2) (path.word 1)).path config ["user"]) = old.isSome from present]
      rfl
  | systemSaveData =>
      cases named
      have place := path_system prepared path
      refine ⟨.notFormatted, ?_⟩
      simp only [factory, Factory.openArchive, place]
      rw [show host.hasEntry ((system (path.word 0) (path.word 1)).path config []) = old.isSome from present]
      rfl

theorem storedInfo_eq (prepared : config.Prepared origin) (grounded : origin.Grounded host)
    (remembers : save.remembers = true) (stands : Stands config origin host save old) :
    Factory.storedInfo host (save.path config ["metadata"]) =
      old.elim (.error .notFormatted) .ok := by
  have there : host.Addressed (save.root config) (save.names config ++ ["metadata"]) :=
    addressed prepared grounded save (by simp)
  have place := site_path config grounded save ["metadata"]
  cases stands with
  | unformatted absent =>
      have missing : host.tree.find? (host.site (save.root config) ++ (save.names config ++ ["metadata"])) =
          none := by
        rw [place]
        exact Tree.find?_of_blocked (by simp [absent]) (by simp)
      obtain ⟨cause, refused⟩ := there.readFile_of_absent missing
      rw [SaveInstance.path, Factory.storedInfo, refused]
      rfl
  | @formatted info mounted remembered =>
      obtain ⟨id, stored, holds⟩ := remembered remembers
      rw [metadata, ← place] at stored
      rw [SaveInstance.path, Factory.storedInfo, there.readFile_of_file stored, holds]
      exact congrArg _ info.ofBytes_toBytes

theorem formatInfo_eq (prepared : config.Prepared origin) (grounded : origin.Grounded host)
    (named : named? (titles.get 0) id path = some save) (remembers : save.remembers = true)
    (stands : Stands config origin host save old) :
    (save.factory config).formatInfo titles host path = old.elim (.error .notFormatted) .ok := by
  have stored := storedInfo_eq prepared grounded remembers stands
  cases id with
  | romFs | sdCard | sdCardWriteOnly => cases named
  | saveData =>
      cases named
      rwa [factory, Factory.formatInfo, Layout.titleMetadata, path_title prepared]
  | extSaveData =>
      cases named
      rwa [factory, Factory.formatInfo, path_extended prepared]
  | sharedExtSaveData =>
      cases named
      rwa [factory, Factory.formatInfo, path_shared prepared]
  | systemSaveData =>
      cases named
      cases remembers

theorem format_extSaveData (container : HostPath) (shared : Bool) (titles : Titles) (host : Host)
    (path : GuestPath) (info : FormatInfo) :
    (Factory.extSaveData container shared).format titles host path info =
      Factory.store
        ((host.createDirectories ((Layout.extInstance container path).child "user")).1.createDirectories
          ((Layout.extInstance container path).child "boss")).1
        ((Layout.extInstance container path).child "metadata") info.toBytes := by
  unfold Factory.format
  dsimp only

theorem format_eq (prepared : config.Prepared origin) (grounded : origin.Grounded host)
    (named : named? (titles.get 0) id path = some save) (stands : Stands config origin host save old)
    (info : FormatInfo) :
    ∃ after, (save.factory config).format titles host path info = (after, .ok ()) ∧
      Reshaped (save.home config origin) host after ∧ Stands config origin after save (some info) := by
  cases id with
  | romFs | sdCard | sdCardWriteOnly => cases named
  | saveData =>
      cases named
      obtain ⟨made, after, makes, stores, settled⟩ := title_settles prepared grounded stands info
      refine ⟨after, ?_, settled⟩
      unfold factory Factory.format
      dsimp only
      rw [Layout.titleInstance, path_title prepared, makes]
      simp only [Layout.titleMetadata, path_title prepared, stores]
  | extSaveData =>
      cases named
      obtain ⟨after, stores, settled⟩ := extended_settles prepared grounded rfl rfl stands info
      refine ⟨after, ?_, settled⟩
      rw [factory, format_extSaveData]
      simp only [path_extended prepared, stores]
  | sharedExtSaveData =>
      cases named
      obtain ⟨after, stores, settled⟩ := extended_settles prepared grounded rfl rfl stands info
      refine ⟨after, ?_, settled⟩
      rw [factory, format_extSaveData]
      simp only [path_shared prepared, stores]
  | systemSaveData =>
      cases named
      obtain ⟨after, makes, settled⟩ := system_settles prepared grounded stands info
      refine ⟨after, ?_, settled⟩
      unfold factory Factory.format
      dsimp only
      rw [path_system prepared, makes]

end GuestStorage.SaveInstance
