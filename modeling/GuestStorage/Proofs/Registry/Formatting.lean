import GuestStorage.Proofs.Registry.Instances

namespace GuestStorage

@[simp] theorem FormatInfo.ofBytes_toBytes (info : FormatInfo) : ofBytes info.toBytes = info := by
  have exact : Bytes.fit size info.toBytes = info.toBytes := Bytes.fit_of_length rfl
  have total : Bytes.word32 info.toBytes 0 = info.totalSize := by
    have field := Bytes.word32_append []
      (Bytes.ofNatLE 4 info.directories.toNat ++ Bytes.ofNatLE 4 info.files.toNat ++
        [info.duplicateData, info.padding.1, info.padding.2.1, info.padding.2.2]) info.totalSize.toNat
    rwa [UInt32.ofNat_toNat] at field
  have directories : Bytes.word32 info.toBytes 4 = info.directories := by
    have field := Bytes.word32_append (Bytes.ofNatLE 4 info.totalSize.toNat)
      (Bytes.ofNatLE 4 info.files.toNat ++
        [info.duplicateData, info.padding.1, info.padding.2.1, info.padding.2.2]) info.directories.toNat
    rwa [UInt32.ofNat_toNat] at field
  have files : Bytes.word32 info.toBytes 8 = info.files := by
    have field := Bytes.word32_append
      (Bytes.ofNatLE 4 info.totalSize.toNat ++ Bytes.ofNatLE 4 info.directories.toNat)
      [info.duplicateData, info.padding.1, info.padding.2.1, info.padding.2.2] info.files.toNat
    rwa [UInt32.ofNat_toNat] at field
  simp only [ofBytes, exact, total, directories, files]
  rfl

/-- The directories that were there at the beginning are there, and relative paths start where they did. -/
structure Host.Grounded (origin host : Host) : Prop where
  workingDirectory : host.workingDirectory = origin.workingDirectory
  directories : origin.KeepsDirectories host

theorem Host.Grounded.refl (host : Host) : Grounded host host := ⟨rfl, .refl host⟩

namespace SaveInstance

variable {config : Config} {origin host after : Host} {save other : SaveInstance} {old : Option FormatInfo}

theorem site_eq (grounded : origin.Grounded host) (path : HostPath) : host.site path = origin.site path := by
  rw [Host.site, Host.site, Host.start, Host.start, grounded.workingDirectory]

theorem home_below (config : Config) (origin : Host) (save : SaveInstance) :
    StrictlyBelow (origin.site (save.root config)) (save.home config origin) :=
  ⟨_, names_ne_nil config save, rfl⟩

theorem home_ne_nil (config : Config) (origin : Host) (save : SaveInstance) : save.home config origin ≠ [] := by
  simp [home, names_ne_nil]

theorem grounded_of_changedWithin (prepared : config.Prepared origin) (grounded : origin.Grounded host)
    (changed : ChangedWithin (save.home config origin) host after) : origin.Grounded after where
  workingDirectory := changed.workingDirectory.trans grounded.workingDirectory
  directories location stands := by
    refine changed.directory (fun inside => ?_) (grounded.directories location stands)
    have below := StrictlyBelow.of_prefix (home_below config origin save) inside
    have empty := root_empty prepared save location below
    rw [stands] at empty
    cases empty

def path (config : Config) (save : SaveInstance) (more : List String) : HostPath :=
  (save.root config).descendant (save.names config ++ more)

theorem ordinary_literals : ∀ name ∈ ["00000001", "user", "boss", "metadata"], OrdinaryName name := by decide

theorem inner_literals (save : SaveInstance) :
    ∀ name ∈ save.inner, name ∈ ["00000001", "user", "boss", "metadata"] := by
  cases save <;> simp [inner]

theorem addressed (prepared : config.Prepared origin) (grounded : origin.Grounded host) (save : SaveInstance)
    {more : List String} (literals : ∀ name ∈ more, name ∈ ["00000001", "user", "boss", "metadata"]) :
    host.Addressed (save.root config) (save.names config ++ more) := by
  have ordinary (name : String) (member : name ∈ save.names config ++ more) : OrdinaryName name := by
    rcases List.mem_append.mp member with front | back
    · exact ordinary_names prepared save name front
    · exact ordinary_literals name (literals name back)
  exact ⟨Host.isDirectory_of_kept (root_directory prepared save) grounded.directories
    grounded.workingDirectory, fun name member => (ordinary name member).names,
    fun name member => (ordinary name member).unterminated⟩

theorem site_path (config : Config) (grounded : origin.Grounded host) (save : SaveInstance)
    (more : List String) :
    host.site (save.root config) ++ (save.names config ++ more) = save.home config origin ++ more := by
  rw [site_eq grounded, home, List.append_assoc]

/-- An instance that was not formatted, or was last formatted with some information. -/
inductive Stands (config : Config) (origin host : Host) (save : SaveInstance) : Option FormatInfo → Prop
  | unformatted (absent : host.tree.find? (save.home config origin) = none)
      (clear : ∀ location, location <+: save.home config origin →
        ∀ id, host.tree.find? location ≠ some (.file id)) : Stands config origin host save none
  | formatted {info : FormatInfo}
      (mounted : host.tree.find? (save.area config origin) = some .directory)
      (remembered : save.remembers = true → ∃ id,
        host.tree.find? (save.metadata config origin) = some (.file id) ∧
          (host.contents id).toBytes = info.toBytes) : Stands config origin host save (some info)

namespace Stands

theorem clear_area (stands : Stands config origin host save old) {location : Location}
    (above : location <+: save.area config origin) (id : Nat) :
    host.tree.find? location ≠ some (.file id) := by
  cases stands with
  | unformatted absent clear =>
      rcases List.prefix_or_prefix_of_prefix above (List.prefix_append _ save.inner) with out | inside
      · exact clear location out id
      · obtain ⟨rest, rfl⟩ := inside
        by_cases here : rest = []
        · rw [here, List.append_nil]
          exact clear _ (List.prefix_refl _) id
        · rw [Tree.find?_of_blocked (by simp [absent]) here]
          nofun
  | formatted mounted =>
      obtain ⟨rest, whole⟩ := above
      by_cases here : rest = []
      · rw [← List.append_nil location, ← here, whole, mounted]
        nofun
      · rw [← whole] at mounted
        rw [Tree.find?_above rest here mounted]
        nofun

theorem metadata_ne_directory (stands : Stands config origin host save old)
    (remembers : save.remembers = true) :
    host.tree.find? (save.metadata config origin) ≠ some .directory := by
  cases stands with
  | unformatted absent =>
      rw [metadata, Tree.find?_of_blocked (by simp [absent]) (by simp)]
      nofun
  | formatted _ remembered =>
      obtain ⟨id, stored, -⟩ := remembered remembers
      rw [stored]
      nofun

theorem beside (stands : Stands config origin host save old) (prepared : config.Prepared origin)
    (distinct : save ≠ other) (changed : ChangedWithin (other.home config origin) host after) :
    Stands config origin after save old := by
  have outside := home_apart prepared distinct.symm
  have kept := changed.untouched outside (home_apart prepared distinct)
  cases stands with
  | unformatted absent clear =>
      refine .unformatted ((kept.entries _ (List.prefix_refl _)).trans absent) fun location above => ?_
      exact changed.clear (fun inside => outside (inside.trans above)) (clear location above)
  | formatted mounted remembered =>
      refine .formatted ((kept.entries _ (List.prefix_append ..)).trans mounted) fun remembers => ?_
      obtain ⟨id, stored, holds⟩ := remembered remembers
      refine ⟨id, (kept.entries _ (List.prefix_append ..)).trans stored, ?_⟩
      rw [kept.contents _ id (List.prefix_append ..) stored, holds]

theorem not_strictlyBelow_area {location : Location} (above : location <+: save.area config origin) :
    ¬ StrictlyBelow (save.area config origin) location := by
  rintro ⟨rest, nonempty, rfl⟩
  exact not_strictlyBelow_self _ ⟨rest, nonempty, (List.prefix_append ..).eq_of_length_le above.length_le⟩

theorem metadata_outside (config : Config) (origin : Host) (remembers : save.remembers = true) :
    ¬ StrictlyBelow (save.area config origin) (save.metadata config origin) := by
  rintro ⟨rest, nonempty, whole⟩
  rw [metadata, area, List.append_assoc] at whole
  have parts := List.append_cancel_left whole
  cases save with
  | title | extended | shared => simp [inner, nonempty] at parts
  | system => cases remembers

theorem within (stands : Stands config origin host save old)
    (same : SameOutside (save.area config origin) host after) : Stands config origin after save old := by
  cases stands with
  | unformatted absent clear =>
      have kept (location : Location) (above : location <+: save.home config origin) :=
        same.entries location (not_strictlyBelow_area (above.trans (List.prefix_append ..)))
      refine .unformatted ((kept _ (List.prefix_refl _)).trans absent) fun location above => ?_
      rw [kept location above]
      exact clear location above
  | formatted mounted remembered =>
      refine .formatted ((same.entries _ (not_strictlyBelow_area (List.prefix_refl _))).trans mounted)
        fun remembers => ?_
      obtain ⟨id, stored, holds⟩ := remembered remembers
      have outside := metadata_outside config origin remembers
      exact ⟨id, (same.entries _ outside).trans stored, by rw [same.contents _ id outside stored, holds]⟩

end Stands

theorem store_settles {root : HostPath} {segments : List String} {home : Location}
    (addressed : host.Addressed root segments) (inside : home <+: host.site root ++ segments)
    (parent : host.tree.find? (host.site root ++ segments).dropLast = some .directory)
    (free : host.tree.find? (host.site root ++ segments) ≠ some .directory) (data : Bytes) :
    ∃ after, Factory.store host (root.descendant segments) data = (after, .ok ()) ∧
      Reshaped home host after ∧ host.KeepsDirectories after ∧ ∃ id,
        after.tree.find? (host.site root ++ segments) = some (.file id) ∧
          (after.contents id).toBytes = data := by
  cases stands : host.tree.find? (host.site root ++ segments) with
  | none =>
      have vacant : host.tree.Vacant (host.site root ++ segments) := ⟨parent, stands⟩
      have added := Host.entryAdded_addFile vacant
      refine ⟨_, by rw [Factory.store, addressed.writeFile_of_vacant vacant]; rfl,
        .fileAdded inside vacant _, added.keepsDirectories stands, host.files.length, ?_, ?_⟩
      · exact (added.entries _).trans (if_pos rfl)
      · simp
  | some entry =>
      cases entry with
      | directory => exact absurd stands free
      | file id =>
          refine ⟨_, by rw [Factory.store, addressed.writeFile_of_file stands]; rfl,
            .written inside stands _, .refl host, id, stands, ?_⟩
          have stored := host.stored id (Tree.mem_fileIds_of_find? stands)
          simp [stored]

theorem metadata_apart (config : Config) (origin : Host) {name : String} (different : name ≠ "metadata") :
    ¬ save.metadata config origin <+: save.home config origin ++ [name] ∧
      ¬ save.home config origin ++ [name] <+: save.metadata config origin := by
  simp [metadata, List.prefix_append_right_inj, different, different.symm]

theorem remember_settles (prepared : config.Prepared origin) (grounded : origin.Grounded host)
    (remembers : save.remembers = true)
    (mounted : host.tree.find? (save.area config origin) = some .directory)
    (free : host.tree.find? (save.metadata config origin) ≠ some .directory) (info : FormatInfo) :
    ∃ after, Factory.store host (save.path config ["metadata"]) info.toBytes = (after, .ok ()) ∧
      Reshaped (save.home config origin) host after ∧ Stands config origin after save (some info) := by
  have place := site_path config grounded save ["metadata"]
  have there : host.Addressed (save.root config) (save.names config ++ ["metadata"]) :=
    addressed prepared grounded save (by simp)
  have inside : save.home config origin <+:
      host.site (save.root config) ++ (save.names config ++ ["metadata"]) := by
    rw [place]
    exact List.prefix_append ..
  have home : host.tree.find? (save.home config origin) = some .directory := by
    refine Tree.find?_above save.inner ?_ mounted
    cases save with
    | title | extended | shared => simp [inner]
    | system => cases remembers
  obtain ⟨after, stores, reshaped, kept, id, stored, holds⟩ := store_settles there inside
    (by rwa [place, List.dropLast_concat]) (by rwa [place]) info.toBytes
  rw [place] at stored
  exact ⟨after, stores, reshaped, .formatted (kept _ mounted) fun _ => ⟨id, stored, holds⟩⟩

structure Recreated (config : Config) (origin host after : Host) (save : SaveInstance) : Prop where
  reshaped : Reshaped (save.home config origin) host after
  mounted : after.tree.find? (save.area config origin) = some .directory
  beside : ∀ location, ¬ location <+: save.area config origin → ¬ save.area config origin <+: location →
    after.tree.find? location = host.tree.find? location

structure Cleared (config : Config) (origin host after : Host) (save : SaveInstance) : Prop where
  reshaped : Reshaped (save.home config origin) host after
  kept : ∀ location, ¬ save.area config origin <+: location →
    after.tree.find? location = host.tree.find? location
  files : ∀ location id, after.tree.find? location = some (.file id) →
    host.tree.find? location = some (.file id)

theorem cleared_removeAll (config : Config) (origin host : Host) (save : SaveInstance) :
    Cleared config origin host (host.removeAll (save.area config origin)) save := by
  have nonempty : save.area config origin ≠ [] := by simp [area, home_ne_nil]
  have removed : EntriesRemoved (save.area config origin <+: ·) host
      (host.removeAll (save.area config origin)) := Host.entriesRemoved_removeAll nonempty
  refine ⟨.removeAll (List.prefix_append ..) nonempty, removed.kept, fun location id found => ?_⟩
  by_cases below : save.area config origin <+: location
  · rw [removed.removed location below] at found
    cases found
  · rwa [← removed.kept location below]

theorem clear_settles (prepared : config.Prepared origin) (grounded : origin.Grounded host)
    (stands : Stands config origin host save old) :
    Cleared config origin host
      (if host.hasEntry (save.path config save.inner) then
        (host.removeDirectoryTree (save.path config save.inner)).1 else host) save := by
  have there := addressed prepared grounded save (inner_literals save)
  have place := site_path config grounded save save.inner
  rw [path, there.hasEntry_eq, place]
  cases present : host.tree.find? (save.home config origin ++ save.inner) with
  | none => exact ⟨.refl _ host, fun _ _ => rfl, fun _ _ found => found⟩
  | some entry =>
      have directory : host.tree.find? (save.area config origin) = some .directory := by
        cases entry with
        | directory => exact present
        | file id => exact absurd present (stands.clear_area (List.prefix_refl _) id)
      have removes := there.removeDirectoryTree_eq (by simp [names_ne_nil]) (by rw [place]; exact directory)
      rw [Option.isSome_some, if_pos rfl, removes, place]
      exact cleared_removeAll config origin host save

theorem recreate_eq {path : HostPath} {cleared : Host}
    (clears : (if host.hasEntry path then (host.removeDirectoryTree path).1 else host) = cleared)
    (makes : (cleared.createDirectories path).2 = .ok ()) :
    Factory.recreate host path = ((cleared.createDirectories path).1, .ok ()) := by
  rw [Factory.recreate, clears]
  cases made : cleared.createDirectories path with
  | mk host result =>
      rw [made] at makes
      dsimp only at makes
      subst makes
      rfl

theorem recreate_settles (prepared : config.Prepared origin) (grounded : origin.Grounded host)
    (stands : Stands config origin host save old) :
    ∃ after, Factory.recreate host (save.path config save.inner) = (after, .ok ()) ∧
      Recreated config origin host after save := by
  have cleared := clear_settles prepared grounded stands
  generalize clears : (if host.hasEntry (save.path config save.inner) then _ else host) = without at cleared
  have grounded := grounded_of_changedWithin prepared grounded cleared.reshaped.changedWithin
  have there := addressed prepared grounded save (inner_literals save)
  have place := site_path config grounded save save.inner
  have made := there.createDirectories_made
  obtain ⟨succeeds, mounted⟩ := there.createDirectories_succeeds fun location above id found =>
    stands.clear_area (by rwa [place] at above) id (cleared.files location id found)
  rw [place] at made mounted
  refine ⟨_, recreate_eq clears succeeds, ?_, mounted, fun location out apart => ?_⟩
  · exact cleared.reshaped.trans (made.reshaped (List.prefix_append ..))
  · exact (made.same out).trans (cleared.kept location apart)

theorem title_settles (prepared : config.Prepared origin) (grounded : origin.Grounded host)
    {programId : UInt64} (stands : Stands config origin host (title programId) old) (info : FormatInfo) :
    ∃ made after, Factory.recreate host ((title programId).path config ["00000001"]) = (made, .ok ()) ∧
      Factory.store made ((title programId).path config ["metadata"]) info.toBytes = (after, .ok ()) ∧
      Reshaped ((title programId).home config origin) host after ∧
      Stands config origin after (title programId) (some info) := by
  obtain ⟨made, makes, recreated⟩ := recreate_settles prepared grounded stands
  have grounded := grounded_of_changedWithin prepared grounded recreated.reshaped.changedWithin
  -- Old metadata outlives the wipe and is overwritten.
  have apart : _ ∧ ¬ (title programId).area config origin <+: (title programId).metadata config origin :=
    metadata_apart config origin (by decide)
  have free : made.tree.find? ((title programId).metadata config origin) ≠ some .directory := by
    rw [recreated.beside _ apart.1 apart.2]
    exact stands.metadata_ne_directory rfl
  obtain ⟨after, stores, reshaped, standing⟩ :=
    remember_settles prepared grounded rfl recreated.mounted free info
  exact ⟨made, after, makes, stores, recreated.reshaped.trans reshaped, standing⟩

theorem system_settles (prepared : config.Prepared origin) (grounded : origin.Grounded host)
    {high low : UInt32} (stands : Stands config origin host (system high low) old) (info : FormatInfo) :
    ∃ after, Factory.recreate host ((system high low).path config []) = (after, .ok ()) ∧
      Reshaped ((system high low).home config origin) host after ∧
      Stands config origin after (system high low) (some info) := by
  obtain ⟨after, makes, recreated⟩ := recreate_settles prepared grounded stands
  exact ⟨after, makes, recreated.reshaped, .formatted recreated.mounted nofun⟩

theorem extended_settles (prepared : config.Prepared origin) (grounded : origin.Grounded host)
    (keeps : save.inner = ["user"]) (remembers : save.remembers = true)
    (stands : Stands config origin host save old) (info : FormatInfo) :
    ∃ after, Factory.store
        ((host.createDirectories (save.path config ["user"])).1.createDirectories
          (save.path config ["boss"])).1
        (save.path config ["metadata"]) info.toBytes = (after, .ok ()) ∧
      Reshaped (save.home config origin) host after ∧ Stands config origin after save (some info) := by
  have inside (name : String) : save.home config origin <+: save.home config origin ++ [name] :=
    List.prefix_append ..
  have seen : save.home config origin ++ ["user"] = save.area config origin := by rw [area, keeps]
  have user : host.Addressed (save.root config) (save.names config ++ ["user"]) :=
    addressed prepared grounded save (by simp)
  have made := user.createDirectories_made
  have mounted := (user.createDirectories_succeeds fun location above id =>
    stands.clear_area (by rwa [site_path config grounded, seen] at above) id).2
  rw [site_path config grounded] at made mounted
  generalize named : (host.createDirectories (save.path config ["user"])).1 = first
  rw [← path, named] at made mounted
  have grounded := grounded_of_changedWithin prepared grounded (made.reshaped (inside "user")).changedWithin
  have boss : first.Addressed (save.root config) (save.names config ++ ["boss"]) :=
    addressed prepared grounded save (by simp)
  have next := boss.createDirectories_made
  rw [site_path config grounded] at next
  generalize named : (first.createDirectories (save.path config ["boss"])).1 = second
  rw [← path, named] at next
  have grounded := grounded_of_changedWithin prepared grounded (next.reshaped (inside "boss")).changedWithin
  have free : second.tree.find? (save.metadata config origin) ≠ some .directory := by
    rw [next.same (metadata_apart config origin (by decide)).1,
      made.same (metadata_apart config origin (by decide)).1]
    exact stands.metadata_ne_directory remembers
  obtain ⟨after, stores, reshaped, standing⟩ := remember_settles prepared grounded remembers
    (next.keepsDirectories _ (seen ▸ mounted)) free info
  exact ⟨after, stores,
    ((made.reshaped (inside "user")).trans (next.reshaped (inside "boss"))).trans reshaped, standing⟩

end SaveInstance

end GuestStorage
