import GuestStorage.Proofs.Host.Persistence

/-!
# Changes within a region

A region is a location with everything below it, whether or not anything stands there. `ChangedWithin` says
that a change concerns one region, and at most makes the directories on the way to it; regions of which
neither contains the other do not see it (`ChangedWithin.untouched`). `Reshaped` adds that no file came from
another place, which holds of everything but a rename.
-/

namespace GuestStorage

namespace Tree

theorem mem_fileIds_iff {tree : Tree} {id : Nat} :
    id ∈ fileIds tree.entries ↔ ∃ location, tree.find? location = some (.file id) := by
  constructor
  · intro member
    obtain ⟨⟨location, entry⟩, stands, named⟩ := List.mem_filterMap.mp member
    cases entry with
    | directory => cases named
    | file other =>
        cases named
        exact ⟨location, find?_of_mem stands⟩
  · rintro ⟨location, stands⟩
    exact mem_fileIds_of_find? stands

end Tree

theorem Host.contents_of_files {before after : Host} (files : after.files = before.files) (id : Nat) :
    after.contents id = before.contents id := by
  rw [contents, files, contents]

/-- In the region everything stands as it stood, with what it held. -/
structure Untouched (home : Location) (before after : Host) : Prop where
  entries : ∀ location, home <+: location →
    after.tree.find? location = before.tree.find? location
  contents : ∀ location id, home <+: location → before.tree.find? location = some (.file id) →
    after.contents id = before.contents id

theorem Untouched.refl (home : Location) (host : Host) : Untouched home host host :=
  ⟨fun _ _ => rfl, fun _ _ _ _ => rfl⟩

structure ChangedWithin (home : Location) (before after : Host) : Prop where
  workingDirectory : after.workingDirectory = before.workingDirectory
  grows : before.files.length ≤ after.files.length
  entries : ∀ location, ¬ home <+: location →
    after.tree.find? location = before.tree.find? location ∨
      location <+: home ∧ before.tree.find? location = none ∧
        after.tree.find? location = some .directory
  contents : ∀ location id, ¬ home <+: location → before.tree.find? location = some (.file id) →
    after.contents id = before.contents id
  fresh : ∀ id ∈ fileIds after.tree.entries,
    id ∈ fileIds before.tree.entries ∨ before.files.length ≤ id

namespace ChangedWithin

variable {home other : Location} {before after : Host}

theorem untouched (changed : ChangedWithin home before after) (beside : ¬ home <+: other)
    (apart : ¬ other <+: home) : Untouched other before after := by
  have outside (location : Location) (inside : other <+: location) : ¬ home <+: location := by
    intro also
    rcases List.prefix_or_prefix_of_prefix also inside with above | below
    · exact beside above
    · exact apart below
  refine ⟨fun location inside => ?_, fun location id inside => changed.contents _ _ (outside _ inside)⟩
  rcases changed.entries location (outside location inside) with same | ⟨above, -⟩
  · exact same
  · exact absurd (inside.trans above) apart

theorem clear (changed : ChangedWithin home before after) {location : Location}
    (outside : ¬ home <+: location) (free : ∀ id, before.tree.find? location ≠ some (.file id)) :
    ∀ id, after.tree.find? location ≠ some (.file id) := by
  intro id stands
  rcases changed.entries location outside with same | ⟨-, -, made⟩
  · exact free id (same ▸ stands)
  · rw [made] at stands
    cases stands

theorem directory (changed : ChangedWithin home before after) {location : Location}
    (outside : ¬ home <+: location) (stands : before.tree.find? location = some .directory) :
    after.tree.find? location = some .directory := by
  rcases changed.entries location outside with same | ⟨-, absent, -⟩
  · rw [same, stands]
  · rw [stands] at absent
    cases absent

end ChangedWithin

namespace ChangedBelow

variable {site : Location} {before after : Host}

theorem grows (changed : ChangedBelow site before after) : before.files.length ≤ after.files.length := by
  induction changed with
  | unchanged => exact Nat.le_refl _
  | directoryAdded _ _ ih | removed _ _ ih | moved _ _ _ ih => exact ih
  | fileAdded _ _ ih =>
      rw [Host.addFile, List.length_append]
      omega
  | written _ _ _ ih => rwa [Host.length_setContents]

theorem fresh (changed : ChangedBelow site before after) :
    ∀ id ∈ fileIds after.tree.entries, id ∈ fileIds before.tree.entries ∨ before.files.length ≤ id := by
  induction changed with
  | unchanged => exact fun _ member => .inl member
  | directoryAdded _ _ ih =>
      intro id member
      rcases Tree.fileIds_insert member with impossible | old
      · cases impossible
      · exact ih id old
  | fileAdded earlier _ ih =>
      intro id member
      rcases Tree.fileIds_insert member with new | old
      · cases new
        exact .inr earlier.grows
      · exact ih id old
  | removed _ _ ih => exact fun id member => ih id (Tree.fileIds_remove member)
  | moved _ _ _ ih => exact fun id member => ih id (Tree.fileIds_move .. ▸ member)
  | written _ _ _ ih => exact ih

theorem changedWithin (changed : ChangedBelow site before after) {home : Location} (inside : home <+: site) :
    ChangedWithin home before after := by
  have same := changed.sameOutside
  have outside (location : Location) (beside : ¬ home <+: location) : ¬ StrictlyBelow site location := by
    rintro ⟨rest, -, rfl⟩
    exact beside (inside.trans (List.prefix_append site rest))
  exact {
    workingDirectory := same.workingDirectory
    grows := changed.grows
    entries := fun location beside => .inl (same.entries location (outside location beside))
    contents := fun location id beside => same.contents location id (outside location beside)
    fresh := changed.fresh }

end ChangedBelow

structure Reshaped (home : Location) (before after : Host) : Prop where
  workingDirectory : after.workingDirectory = before.workingDirectory
  grows : before.files.length ≤ after.files.length
  entries : ∀ location, ¬ home <+: location →
    after.tree.find? location = before.tree.find? location ∨
      location <+: home ∧ before.tree.find? location = none ∧
        after.tree.find? location = some .directory
  contents : ∀ location id, ¬ home <+: location → before.tree.find? location = some (.file id) →
    after.contents id = before.contents id
  stays : ∀ location id, after.tree.find? location = some (.file id) →
    before.tree.find? location = some (.file id) ∨ before.files.length ≤ id

namespace Reshaped

variable {home location : Location} {before between after host : Host}

theorem refl (home : Location) (host : Host) : Reshaped home host host :=
  ⟨rfl, Nat.le_refl _, fun _ _ => .inl rfl, fun _ _ _ _ => rfl, fun _ _ stands => .inl stands⟩

theorem trans (first : Reshaped home before between) (second : Reshaped home between after) :
    Reshaped home before after where
  workingDirectory := second.workingDirectory.trans first.workingDirectory
  grows := Nat.le_trans first.grows second.grows
  entries location outside := by
    rcases first.entries location outside with same | ⟨above, absent, made⟩
    · rw [← same]
      exact second.entries location outside
    · rcases second.entries location outside with kept | ⟨-, missing, -⟩
      · exact .inr ⟨above, absent, kept.trans made⟩
      · rw [made] at missing
        cases missing
  contents location id outside stands := by
    rcases first.entries location outside with same | ⟨-, absent, -⟩
    · exact (second.contents location id outside (same.trans stands)).trans
        (first.contents location id outside stands)
    · rw [stands] at absent
      cases absent
  stays location id stands := by
    rcases second.stays location id stands with stood | new
    · exact first.stays location id stood
    · exact .inr (Nat.le_trans first.grows new)

theorem changedWithin (reshaped : Reshaped home before after) : ChangedWithin home before after where
  workingDirectory := reshaped.workingDirectory
  grows := reshaped.grows
  entries := reshaped.entries
  contents := reshaped.contents
  fresh id member := by
    obtain ⟨location, stands⟩ := Tree.mem_fileIds_iff.mp member
    exact (reshaped.stays location id stands).imp_left Tree.mem_fileIds_of_find?

theorem removeAll (inside : home <+: location) (nonempty : location ≠ []) :
    Reshaped home host (host.removeAll location) := by
  have removed : EntriesRemoved (location <+: ·) host (host.removeAll location) :=
    Host.entriesRemoved_removeAll nonempty
  refine ⟨rfl, Nat.le_refl _, fun place outside => .inl (removed.kept place ?_), fun _ _ _ _ => rfl, ?_⟩
  · exact fun below => outside (inside.trans below)
  · intro place id stands
    by_cases below : location <+: place
    · rw [removed.removed place below] at stands
      cases stands
    · exact .inl ((removed.kept place below).symm.trans stands)

theorem written (inside : home <+: location) {id : Nat} (stands : host.tree.find? location = some (.file id))
    (contents : Contents) : Reshaped home host (host.setContents id contents) where
  workingDirectory := rfl
  grows := Nat.le_of_eq (Host.length_setContents ..).symm
  entries _ _ := .inl rfl
  contents place other outside stood := by
    refine Host.contents_setContents_of_ne host ?_ contents
    rintro rfl
    exact outside (Tree.file_location_unique stands stood ▸ inside)
  stays _ _ stood := .inl stood

theorem fileAdded (inside : home <+: location) (vacant : host.tree.Vacant location) (contents : Contents) :
    Reshaped home host ((host.addFile location).setContents host.files.length contents) := by
  have added := Host.entryAdded_addFile vacant
  refine ⟨rfl, ?_, fun place outside => .inl ?_, fun place id _ stood => ?_, fun place id stands => ?_⟩
  · rw [Host.length_setContents, Host.addFile, List.length_append]
    omega
  · refine (added.entries place).trans (if_neg ?_)
    rintro rfl
    exact outside inside
  · have old := host.stored id (Tree.mem_fileIds_of_find? stood)
    rw [Host.contents_setContents_of_ne _ (Nat.ne_of_lt old), added.contents id old]
  · have stands := (added.entries place).symm.trans stands
    split at stands
    · cases stands
      exact .inr (Nat.le_refl _)
    · exact .inl stands

end Reshaped

structure DirectoriesMade (target : Location) (before after : Host) : Prop where
  workingDirectory : after.workingDirectory = before.workingDirectory
  files : after.files = before.files
  entries : ∀ location, after.tree.find? location = before.tree.find? location ∨
    location <+: target ∧ before.tree.find? location = none ∧
      after.tree.find? location = some .directory

namespace DirectoriesMade

variable {target : Location} {before between after host : Host}

theorem refl (target : Location) (host : Host) : DirectoriesMade target host host :=
  ⟨rfl, rfl, fun _ => .inl rfl⟩

theorem cons {location : Location} (above : location <+: target) (vacant : host.tree.Vacant location)
    (onward : DirectoriesMade target (host.addDirectory location) after) :
    DirectoriesMade target host after := by
  have added := Host.entryAdded_addDirectory vacant
  refine ⟨onward.workingDirectory, onward.files, fun place => ?_⟩
  by_cases here : place = location
  · subst here
    refine .inr ⟨above, vacant.absent, ?_⟩
    have made := (added.entries place).trans (if_pos rfl)
    rcases onward.entries place with same | ⟨-, absent, -⟩
    · exact same.trans made
    · rw [made] at absent
      cases absent
  · have same := (added.entries place).trans (if_neg here)
    rw [← same]
    exact onward.entries place

theorem same (made : DirectoriesMade target before after) {location : Location}
    (outside : ¬ location <+: target) :
    after.tree.find? location = before.tree.find? location :=
  (made.entries location).resolve_right fun ⟨above, _⟩ => outside above

theorem keepsDirectories (made : DirectoriesMade target before after) : before.KeepsDirectories after := by
  intro location stands
  rcases made.entries location with same | ⟨-, -, directory⟩
  · rw [same, stands]
  · exact directory

theorem reshaped (made : DirectoriesMade target before after) {home : Location} (inside : home <+: target) :
    Reshaped home before after where
  workingDirectory := made.workingDirectory
  grows := Nat.le_of_eq (congrArg List.length made.files.symm)
  entries location outside := by
    refine (made.entries location).imp_right fun ⟨above, absent, directory⟩ => ?_
    exact ⟨(List.prefix_or_prefix_of_prefix above inside).resolve_right outside, absent, directory⟩
  contents _ id _ _ := Host.contents_of_files made.files id
  stays location id stands := by
    rcases made.entries location with same | ⟨-, -, directory⟩
    · exact .inl (same ▸ stands)
    · rw [directory] at stands
      cases stands

end DirectoriesMade

namespace Host

open HostPath

variable {host : Host} {place : Location} {parts : List String}

theorem descend_cons {part : String} {rest : List String} (proper : ∀ other ∈ part :: rest, Proper other) :
    host.descend place (part :: rest) =
      if maxNameLength < part.utf8ByteSize then (host, .error .nameTooLong)
      else
        match host.tree.find? (place ++ [part]) with
        | some .directory => host.descend (place ++ [part]) rest
        | some (.file _) =>
          (host, .error (if rest.all isTrivial then .alreadyExists else .notADirectory))
        | none => (host.addDirectory (place ++ [part])).descend (place ++ [part]) rest := by
  have named := proper part List.mem_cons_self
  have noPoint : rest.contains "." = false := by
    rw [List.contains_eq_mem, decide_eq_false_iff_not]
    intro member
    exact absurd (proper "." (List.mem_cons_of_mem _ member)).nontrivial (by decide)
  rw [descend, if_neg (Bool.eq_false_iff.mp named.nontrivial), if_neg named.notUp, noPoint]
  rfl

theorem vacant_child {part : String} (directory : host.tree.find? place = some .directory)
    (absent : host.tree.find? (place ++ [part]) = none) : host.tree.Vacant (place ++ [part]) :=
  ⟨by rwa [List.dropLast_concat], absent⟩

theorem find?_addDirectory {location : Location} (vacant : host.tree.Vacant location) :
    (host.addDirectory location).tree.find? location = some .directory :=
  ((entryAdded_addDirectory vacant).entries location).trans (if_pos rfl)

theorem descend_made (proper : ∀ part ∈ parts, Proper part)
    (directory : host.tree.find? place = some .directory) :
    DirectoriesMade (place ++ parts) host (host.descend place parts).1 := by
  induction parts generalizing host place with
  | nil => exact .refl _ host
  | cons part rest ih =>
      have later (other : String) (member : other ∈ rest) := proper other (List.mem_cons_of_mem _ member)
      rw [descend_cons proper, List.append_cons place part rest]
      split
      · exact .refl _ host
      · split
        · exact ih later ‹_›
        · exact .refl _ host
        · have vacant := vacant_child directory ‹_›
          exact .cons (List.prefix_append ..) vacant (ih later (find?_addDirectory vacant))

theorem descend_succeeds (names : ∀ part ∈ parts, Names part)
    (directory : host.tree.find? place = some .directory)
    (clear : ∀ front, front <+: parts → ∀ id, host.tree.find? (place ++ front) ≠ some (.file id)) :
    (host.descend place parts).2 = .ok () ∧
      (host.descend place parts).1.tree.find? (place ++ parts) = some .directory := by
  induction parts generalizing host place with
  | nil => exact ⟨rfl, by rwa [List.append_nil]⟩
  | cons part rest ih =>
      have later (other : String) (member : other ∈ rest) := names other (List.mem_cons_of_mem _ member)
      have proper (other : String) (member : other ∈ part :: rest) : Proper other :=
        ⟨(names other member).nontrivial, (names other member).notUp⟩
      rw [descend_cons proper, if_neg (Nat.not_lt.mpr (names part List.mem_cons_self).short),
        List.append_cons place part rest]
      have onward (front : List String) (prior : front <+: rest) (id : Nat) :
          host.tree.find? (place ++ [part] ++ front) ≠ some (.file id) := by
        rw [← List.append_cons]
        exact clear (part :: front) (List.cons_prefix_cons.mpr ⟨rfl, prior⟩) id
      split
      · exact ih later ‹_› onward
      · rename_i id stands
        exact absurd stands (clear [part] (List.prefix_append ..) id)
      · have vacant := vacant_child directory ‹_›
        refine ih later (find?_addDirectory vacant) fun front prior id stands => ?_
        have stood := (entryAdded_addDirectory vacant).entries (place ++ [part] ++ front)
        rw [stood] at stands
        split at stands
        · cases stands
        · exact onward front prior id stands

theorem descend_of_resolves {rest : List String} {location : Location}
    (resolves : Resolves host.tree place parts (.found location .directory)) :
    host.descend place (parts ++ rest) = host.descend location rest := by
  generalize target : Spot.found location .directory = spot at resolves
  induction resolves with
  | done =>
      cases target
      rfl
  | stay _ trivial _ ih => rw [List.cons_append, descend, if_pos trivial, ih target]
  | up _ _ ih =>
      rw [List.cons_append, descend, if_neg (by decide), if_pos rfl, ih target]
  | down _ named _ onward ih =>
      have below := ih target
      subst target
      rw [List.cons_append, descend, if_neg (by simp [named.nontrivial]), if_neg named.notUp,
        if_neg (Nat.not_lt.mpr named.short), onward.find?_start]
      exact below
  | missing => cases target

namespace Addressed

variable {mountPoint : HostPath} {segments : List String}

theorem createDirectories_eq (addressed : Addressed host mountPoint segments) :
    host.createDirectories (mountPoint.descendant segments) =
      host.descend (host.site mountPoint) segments := by
  have leads := resolves_of_locate (locate_of_lookup addressed.lookup_mountPoint)
  rw [createDirectories, if_neg (Bool.eq_false_iff.mp addressed.hasZero_descendant)]
  by_cases here : segments = []
  · subst here
    have whole : host.descend _ (mountPoint.parts ++ []) = _ := descend_of_resolves leads
    rwa [List.append_nil] at whole
  · have named (segment : String) (member : segment ∈ segments) : segment ≠ "" :=
      (addressed.proper segment member).ne_empty
    rw [start, isAbsolute_descendant mountPoint named, parts_descendant mountPoint here named]
    exact descend_of_resolves (resolves_stem leads)

theorem createDirectories_made (addressed : Addressed host mountPoint segments) :
    DirectoriesMade (host.site mountPoint ++ segments) host
      (host.createDirectories (mountPoint.descendant segments)).1 := by
  rw [addressed.createDirectories_eq]
  exact descend_made addressed.proper addressed.find?_mountPoint

theorem createDirectories_succeeds (addressed : Addressed host mountPoint segments)
    (clear : ∀ location, location <+: host.site mountPoint ++ segments →
      ∀ id, host.tree.find? location ≠ some (.file id)) :
    (host.createDirectories (mountPoint.descendant segments)).2 = .ok () ∧
      (host.createDirectories (mountPoint.descendant segments)).1.tree.find?
        (host.site mountPoint ++ segments) = some .directory := by
  rw [addressed.createDirectories_eq]
  refine descend_succeeds addressed.names addressed.find?_mountPoint fun front prior => clear _ ?_
  exact (List.prefix_append_right_inj _).mpr prior

theorem removeDirectoryTree_eq (addressed : Addressed host mountPoint segments) (nonempty : segments ≠ [])
    (stands : host.tree.find? (host.site mountPoint ++ segments) = some .directory) :
    host.removeDirectoryTree (mountPoint.descendant segments) =
      (host.removeAll (host.site mountPoint ++ segments), .ok ()) := by
  have inside : host.site mountPoint ++ segments ≠ [] := by simp [nonempty]
  simp only [removeDirectoryTree, addressed.lookup_descendant stands, if_neg inside,
    endsInName_of_proper mountPoint nonempty addressed.proper, if_true]

theorem writeFile_of_file (addressed : Addressed host mountPoint segments) {id : Nat}
    (stands : host.tree.find? (host.site mountPoint ++ segments) = some (.file id)) (data : Bytes) :
    host.writeFile (mountPoint.descendant segments) data = .ok (host.setContents id (.ofBytes data)) := by
  have nonempty : segments ≠ [] := by
    rintro rfl
    rw [List.append_nil, addressed.find?_mountPoint] at stands
    cases stands
  have located := locate_of_lookup (addressed.lookup_descendant stands)
  have named := named_of_proper mountPoint nonempty addressed.proper
  have creates : host.createFile (mountPoint.descendant segments) = .ok (host.setContents id .empty, id) := by
    simp only [createFile, isEmpty_of_locate located, Bool.false_eq_true, if_false, trimmed_of_named named,
      located, endsInSlash, decide_eq_false named]
  rw [writeFile, creates]
  exact congrArg _ (setContents_setContents host id _ _)

theorem writeFile_of_vacant (addressed : Addressed host mountPoint segments)
    (vacant : host.tree.Vacant (host.site mountPoint ++ segments)) (data : Bytes) :
    host.writeFile (mountPoint.descendant segments) data =
      .ok ((host.addFile (host.site mountPoint ++ segments)).setContents host.files.length
        (.ofBytes data)) := by
  obtain ⟨parent, name, whole, located⟩ := addressed.locate_vacant vacant
  have named := named_of_proper mountPoint (addressed.ne_nil_of_vacant vacant) addressed.proper
  rw [writeFile, createFile_missing named located, whole]

theorem readFile_of_file (addressed : Addressed host mountPoint segments) {id : Nat}
    (stands : host.tree.find? (host.site mountPoint ++ segments) = some (.file id)) :
    host.readFile (mountPoint.descendant segments) = .ok (host.contents id).toBytes := by
  rw [readFile, addressed.lookup_descendant stands]

theorem readFile_of_absent (addressed : Addressed host mountPoint segments)
    (absent : host.tree.find? (host.site mountPoint ++ segments) = none) :
    ∃ cause, host.readFile (mountPoint.descendant segments) = .error cause := by
  have missing := addressed.entryAt?_descendant
  rw [absent, entryAt?] at missing
  cases found : host.lookup (mountPoint.descendant segments) with
  | error cause => exact ⟨cause, by rw [readFile, found]⟩
  | ok place =>
      rw [found] at missing
      cases missing

theorem hasEntry_eq (addressed : Addressed host mountPoint segments) :
    host.hasEntry (mountPoint.descendant segments) =
      (host.tree.find? (host.site mountPoint ++ segments)).isSome := by
  rw [hasEntry, addressed.entryAt?_descendant]

theorem isDirectory_eq (addressed : Addressed host mountPoint segments) :
    host.isDirectory (mountPoint.descendant segments) =
      decide (host.tree.find? (host.site mountPoint ++ segments) = some .directory) := by
  rw [isDirectory, addressed.entryAt?_descendant]

end Addressed

end Host

end GuestStorage
