import GuestStorage.Proofs.Registry.FreshArchives

/-!
# Formatting wipes

The factories of titles' and of system save data remove an instance before they make it again, if its path leads
to it. A path that leads up through names that are missing does not lead anywhere until they are made, and then
nothing is removed. `format_wipes` says when a formatted instance is fresh. It always is if its path never leads
up.
-/

namespace GuestStorage

open HostPath

structure HostPath.Named (path : HostPath) : Prop where
  ends : path.endsInName = true
  nonempty : path.isEmpty = false
  below : ∀ host : Host, host.site path ≠ []

theorem HostPath.named_descendant (container : HostPath) {names : List String} (nonempty : names ≠ [])
    (proper : ∀ name ∈ names, Proper name) : (container.descendant names).Named where
  ends := endsInName_of_proper container nonempty proper
  nonempty := by
    have parts := parts_descendant container nonempty fun name member => (proper name member).ne_empty
    obtain ⟨name, rest, rfl⟩ := List.exists_cons_of_ne_nil nonempty
    simp only [isEmpty, parts, List.all_append, List.all_cons,
      decide_eq_false (proper name List.mem_cons_self).ne_empty, Bool.false_and, Bool.and_false]
  below host := by
    rw [Host.site_descendant host container proper]
    exact List.append_ne_nil_of_right_ne_nil _ nonempty

structure Host.Founded (host : Host) (path : HostPath) : Prop where
  directory : host.tree.find? (host.start path) = some .directory
  outside : ¬ host.site path <+: host.start path

theorem Host.founded_of_isAbsolute {host : Host} {path : HostPath} (named : path.Named)
    (absolute : path.isAbsolute = true) : host.Founded path := by
  have root : host.start path = [] := if_pos absolute
  refine ⟨by simp [root], ?_⟩
  rw [root]
  exact fun above => named.below host (List.prefix_nil.mp above)

/-- A directory was made anew. What was in it is gone if the path led to it, and what the path passes is made;
beside it everything stays, other than what is not spared. -/
structure Wiped (mountPoint : HostPath) (spared : Location → Prop) (before after : Host) : Prop where
  workingDirectory : after.workingDirectory = before.workingDirectory
  leads : after.Leads mountPoint
  inside : ∀ location, StrictlyBelow (before.site mountPoint) location →
    (after.tree.find? location = none ↔
      (before.hasEntry mountPoint = true ∨ before.tree.find? location = none) ∧
        ¬ before.Through mountPoint location)
  entries : ∀ location entry, ¬ before.site mountPoint <+: location → spared location →
    before.tree.find? location = some entry → after.tree.find? location = some entry
  contents : ∀ location id, ¬ before.site mountPoint <+: location → spared location →
    before.tree.find? location = some (.file id) → after.contents id = before.contents id

section

variable {host cleared after : Host} {mountPoint : HostPath}

theorem Factory.makes_of_recreate (recreates : Factory.recreate host mountPoint = (after, .ok ())) :
    (if host.hasEntry mountPoint then (host.removeDirectoryTree mountPoint).1 else host).createDirectories
      mountPoint = (after, .ok ()) := by
  rw [Factory.recreate] at recreates
  split at recreates
  · cases recreates
  · cases recreates
    assumption

structure Cleared (mountPoint : HostPath) (host cleared : Host) : Prop where
  workingDirectory : cleared.workingDirectory = host.workingDirectory
  kept : ∀ location, ¬ host.site mountPoint <+: location →
    cleared.tree.find? location = host.tree.find? location
  inside : ∀ location, StrictlyBelow (host.site mountPoint) location →
    (cleared.tree.find? location = none ↔
      host.hasEntry mountPoint = true ∨ host.tree.find? location = none)
  contents : ∀ id, cleared.contents id = host.contents id

namespace Cleared

theorem of_absent (absent : host.hasEntry mountPoint = false) : Cleared mountPoint host host where
  workingDirectory := rfl
  kept _ _ := rfl
  inside location _ := by simp [absent]
  contents _ := rfl

theorem removeAll (named : mountPoint.Named) (present : host.hasEntry mountPoint = true) :
    Cleared mountPoint host (host.removeAll (host.site mountPoint)) := by
  have removed : EntriesRemoved (host.site mountPoint <+: ·) host (host.removeAll (host.site mountPoint)) :=
    Host.entriesRemoved_removeAll (named.below host)
  refine ⟨rfl, removed.kept, ?_, fun _ => rfl⟩
  rintro location ⟨rest, -, rfl⟩
  simp [present, removed.removed _ (List.prefix_append ..)]

end Cleared

theorem Factory.cleared_of_recreate (named : mountPoint.Named) (founded : host.Founded mountPoint)
    (recreates : Factory.recreate host mountPoint = (after, .ok ())) :
    ∃ cleared, Host.createDirectories cleared mountPoint = (after, .ok ()) ∧
      Cleared mountPoint host cleared := by
  have makes := makes_of_recreate recreates
  cases present : host.hasEntry mountPoint with
  | false =>
      rw [present, if_neg Bool.false_ne_true] at makes
      exact ⟨host, makes, .of_absent present⟩
  | true =>
      rw [present, if_pos rfl] at makes
      obtain ⟨entry, stands⟩ := Option.isSome_iff_exists.mp present
      have found := Host.entryAt?_eq_some_iff.mp stands
      cases entry with
      | directory =>
          have removes : host.removeDirectoryTree mountPoint =
              (host.removeAll (host.site mountPoint), .ok ()) := by
            simp only [Host.removeDirectoryTree, found, if_neg (named.below host), named.ends, if_true]
          rw [removes] at makes
          exact ⟨_, makes, .removeAll named present⟩
      | file id =>
          have refuses : (host.removeDirectoryTree mountPoint).1 = host := by
            simp only [Host.removeDirectoryTree, found]
          rw [refuses] at makes
          have leads := Host.leads_of_createDirectories founded.directory makes
          have along := Host.createDirectories_along founded.directory
          rw [makes] at along
          -- The file would still stand where there is a directory now.
          have kept := along.kept (Host.lookup_eq_ok found)
          rw [← Host.site_eq along.workingDirectory, leads.find?_site] at kept
          cases kept

theorem wiped_of_recreate (named : mountPoint.Named) (founded : host.Founded mountPoint)
    (recreates : Factory.recreate host mountPoint = (after, .ok ())) :
    Wiped mountPoint (fun _ => True) host after := by
  obtain ⟨cleared, makes, clears⟩ := Factory.cleared_of_recreate named founded recreates
  have directory : cleared.tree.find? (cleared.start mountPoint) = some .directory := by
    rw [Host.start_eq clears.workingDirectory, clears.kept _ founded.outside, founded.directory]
  have leads := Host.leads_of_createDirectories directory makes
  have along := Host.createDirectories_along directory
  rw [makes, Host.through_eq clears.workingDirectory] at along
  have same := along.workingDirectory.trans clears.workingDirectory
  refine ⟨same, leads, fun location below => ?_, fun location entry outside _ stands => ?_,
    fun location id _ _ _ => ?_⟩
  · rw [← clears.inside location below]
    constructor
    · intro gone
      refine ⟨?_, fun through => ?_⟩
      · rcases along.entries location with unchanged | ⟨-, absent, -⟩
        · rw [← unchanged, gone]
        · exact absent
      · rw [← Host.through_eq same] at through
        rw [leads.find?_through through] at gone
        cases gone
    · rintro ⟨gone, apart⟩
      exact ((along.entries location).resolve_right fun made => apart made.1).trans gone
  · exact along.kept ((clears.kept location outside).trans stands)
  · rw [along.contents, clears.contents]

namespace Wiped

variable {spared : Location → Prop}

theorem mono {more : Location → Prop} (wiped : Wiped mountPoint more host after)
    (fewer : ∀ location, spared location → more location) : Wiped mountPoint spared host after :=
  { wiped with
    entries := fun location entry outside here => wiped.entries location entry outside (fewer location here)
    contents := fun location id outside here => wiped.contents location id outside (fewer location here) }

theorem site_eq (wiped : Wiped mountPoint spared host after) :
    after.site mountPoint = host.site mountPoint :=
  Host.site_eq wiped.workingDirectory mountPoint

theorem lookup_eq (wiped : Wiped mountPoint spared host after) (named : mountPoint.Named) :
    after.lookup mountPoint = .ok (after.site mountPoint, .directory) :=
  wiped.leads.lookup_eq named.nonempty

theorem stored {made : Host} {location : Location} {data : Bytes}
    (wiped : Wiped mountPoint (fun _ => True) host made)
    (beside : ¬ StrictlyBelow (host.site mountPoint) location) (stored : Stored location data made after) :
    Wiped mountPoint (· ≠ location) host after where
  workingDirectory := stored.workingDirectory.trans wiped.workingDirectory
  leads := wiped.leads.persists stored.keepsDirectories stored.workingDirectory
  inside place below := by
    rw [stored.entries place fun here => beside (here ▸ below)]
    exact wiped.inside place below
  entries place entry outside apart stands := by
    rw [stored.entries place apart]
    exact wiped.entries place entry outside trivial stands
  contents place id outside apart stands :=
    (stored.contents place id apart (wiped.entries place _ outside trivial stands)).trans
      (wiped.contents place id outside trivial stands)

theorem fresh_iff (wiped : Wiped mountPoint spared host after) (named : mountPoint.Named) :
    Mount.Fresh ⟨.saveData, mountPoint⟩ after ↔
      (host.hasEntry mountPoint = true ∨
        ∀ location, StrictlyBelow (host.site mountPoint) location → host.tree.find? location = none) ∧
      ∀ location, host.Through mountPoint location → ¬ StrictlyBelow (host.site mountPoint) location := by
  rw [Mount.fresh_iff rfl (wiped.lookup_eq named), wiped.site_eq]
  constructor
  · intro clear
    refine ⟨Decidable.or_iff_not_imp_left.mpr fun absent location below => ?_, fun location through below => ?_⟩
    · exact ((wiped.inside location below).mp (clear location below)).1.resolve_left absent
    · exact ((wiped.inside location below).mp (clear location below)).2 through
  · rintro ⟨gone, apart⟩ location below
    exact (wiped.inside location below).mpr
      ⟨gone.imp_right fun clear => clear location below, fun through => apart location through below⟩

theorem fresh_of_downward (wiped : Wiped mountPoint spared host after) (named : mountPoint.Named)
    (downward : ".." ∉ mountPoint.parts) : Mount.Fresh ⟨.saveData, mountPoint⟩ after := by
  refine (wiped.fresh_iff named).mpr ⟨?_, fun _ => Host.not_below_of_through downward⟩
  by_cases stands : host.tree.find? (host.site mountPoint) = some .directory
  -- If a directory stood there, the path led to it and it was removed.
  · have led := wiped.leads.of_stands downward wiped.workingDirectory stands
    refine .inl ?_
    rw [Host.hasEntry, Host.entryAt?, led.lookup_eq named.nonempty]
    rfl
  · refine .inr ?_
    rintro location ⟨rest, nonempty, rfl⟩
    exact Tree.find?_of_blocked stands nonempty

end Wiped

end

namespace Layout

theorem systemInstance_eq (container : HostPath) (path : GuestPath) :
    systemInstance container path =
      container.descendant [upperWord (path.word 1), upperWord (path.word 0)] := by
  simp only [systemInstance, descendant, List.foldl_cons, List.foldl_nil]

theorem titleData_child (container : HostPath) (programId : UInt64) (name : String) :
    (titleData container programId).child name =
      container.descendant
        [lowerWord (programId >>> 32).toUInt32, lowerWord programId.toUInt32, "data", name] := by
  simp only [titleData, descendant, List.foldl_cons, List.foldl_nil]

theorem proper_systemNames (path : GuestPath) :
    ∀ name ∈ [upperWord (path.word 1), upperWord (path.word 0)], Proper name := by
  simp [(ordinaryName_upperWord _).proper]

theorem proper_titleNames (programId : UInt64) {last : String} (ordinary : OrdinaryName last) :
    ∀ name ∈ [lowerWord (programId >>> 32).toUInt32, lowerWord programId.toUInt32, "data", last],
      Proper name := by
  have data : OrdinaryName "data" := by decide
  simp [(ordinaryName_lowerWord _).proper, data.proper, ordinary.proper]

theorem metadata_beside (host : Host) (container : HostPath) (programId : UInt64) :
    ¬ StrictlyBelow (host.site (titleInstance container programId))
      (host.site (titleMetadata container programId)) := by
  rw [titleInstance, titleMetadata, titleData_child, titleData_child,
    Host.site_descendant host container (proper_titleNames programId (by decide)),
    Host.site_descendant host container (proper_titleNames programId (by decide))]
  rintro ⟨rest, -, whole⟩
  rw [List.append_assoc, List.append_cancel_left_eq] at whole
  simp at whole

end Layout

namespace Factory

def wiped? (titles : Titles) (path : GuestPath) : Factory → Option HostPath
  | systemSaveData container => some (Layout.systemInstance container path)
  | saveData container slot => some (Layout.titleInstance container (titles.get slot))
  | sdCard .. | sdCardWriteOnly _ | extSaveData .. | romFs _ => none

def remembered? (titles : Titles) : Factory → Option HostPath
  | saveData container slot => some (Layout.titleMetadata container (titles.get slot))
  | sdCard .. | sdCardWriteOnly _ | extSaveData .. | systemSaveData _ | romFs _ => none

def Spares (factory : Factory) (titles : Titles) (host : Host) (location : Location) : Prop :=
  ∀ metadata, factory.remembered? titles = some metadata → location ≠ host.site metadata

variable {factory : Factory} {titles : Titles} {host after : Host} {path : GuestPath} {info : FormatInfo}
  {mountPoint : HostPath}

theorem named_of_wiped? (wipes : factory.wiped? titles path = some mountPoint) : mountPoint.Named := by
  cases factory with
  | sdCard | sdCardWriteOnly | extSaveData | romFs => cases wipes
  | systemSaveData container =>
      obtain rfl := Option.some.inj wipes
      rw [Layout.systemInstance_eq]
      exact container.named_descendant (List.cons_ne_nil _ _) (Layout.proper_systemNames path)
  | saveData container slot =>
      obtain rfl := Option.some.inj wipes
      rw [Layout.titleInstance, Layout.titleData_child]
      exact container.named_descendant (List.cons_ne_nil _ _) (Layout.proper_titleNames _ (by decide))

theorem wiped_of_format (wipes : factory.wiped? titles path = some mountPoint)
    (founded : host.Founded mountPoint)
    (formats : factory.format titles host path info = (after, .ok ())) :
    Wiped mountPoint (factory.Spares titles host) host after ∧
      ∀ metadata, factory.remembered? titles = some metadata →
        factory.formatInfo titles after path = .ok info := by
  have named := named_of_wiped? wipes
  cases factory with
  | sdCard | sdCardWriteOnly | extSaveData | romFs => cases wipes
  | systemSaveData container =>
      obtain rfl := Option.some.inj wipes
      unfold format at formats
      exact ⟨(wiped_of_recreate named founded formats).mono fun _ _ => trivial, nofun⟩
  | saveData container slot =>
      obtain rfl := Option.some.inj wipes
      unfold format at formats
      dsimp only at formats
      split at formats
      · cases formats
      · rename_i made recreates
        have wiped := wiped_of_recreate named founded recreates
        have proper := Layout.proper_titleNames (titles.get slot) (show OrdinaryName "metadata" by decide)
        have ends : (Layout.titleMetadata container (titles.get slot)).parts.getLast? ≠ some "" := by
          rw [Layout.titleMetadata, Layout.titleData_child]
          exact named_of_proper container (List.cons_ne_nil _ _) proper
        obtain ⟨stored, location, id, leads, holds⟩ := stored_of_store ends formats
        rw [Host.site_eq wiped.workingDirectory] at stored
        refine ⟨(wiped.stored (Layout.metadata_beside host container _) stored).mono ?_, fun _ _ => ?_⟩
        · exact fun location spared => spared _ rfl
        · rw [formatInfo, storedInfo_of_lookup leads holds]

/-- What formatting leaves where it succeeds: the instance can be opened. It is fresh if and only if its path led
to it, or nothing stood in it, and the path does not pass through it; so it always is if the path never leads up.
The information is remembered, and everything else that stood stands. -/
theorem format_wipes (wipes : factory.wiped? titles path = some mountPoint) (founded : host.Founded mountPoint)
    (formats : factory.format titles host path info = (after, .ok ())) :
    factory.openArchive titles after path = .ok (.mounted ⟨.saveData, mountPoint⟩) ∧
    (Mount.Fresh ⟨.saveData, mountPoint⟩ after ↔
      (host.hasEntry mountPoint = true ∨
        ∀ location, StrictlyBelow (host.site mountPoint) location → host.tree.find? location = none) ∧
      ∀ location, host.Through mountPoint location → ¬ StrictlyBelow (host.site mountPoint) location) ∧
    (".." ∉ mountPoint.parts → Mount.Fresh ⟨.saveData, mountPoint⟩ after) ∧
    (∀ metadata, factory.remembered? titles = some metadata →
      factory.formatInfo titles after path = .ok info) ∧
    ∀ location entry, ¬ host.site mountPoint <+: location → factory.Spares titles host location →
      host.tree.find? location = some entry → after.tree.find? location = some entry ∧
        ∀ id, entry = .file id → after.contents id = host.contents id := by
  have named := named_of_wiped? wipes
  obtain ⟨wiped, remembers⟩ := wiped_of_format wipes founded formats
  refine ⟨?_, wiped.fresh_iff named, wiped.fresh_of_downward named, remembers,
    fun location entry outside spared stands => ⟨wiped.entries location entry outside spared stands, ?_⟩⟩
  · have directory := Host.isDirectory_iff.mpr (wiped.lookup_eq named)
    cases factory with
    | sdCard | sdCardWriteOnly | extSaveData | romFs => cases wipes
    | systemSaveData container =>
        obtain rfl := Option.some.inj wipes
        have present : after.hasEntry (Layout.systemInstance container path) = true := by
          rw [Host.hasEntry, of_decide_eq_true directory]
          rfl
        simp only [openArchive, present, if_true]
    | saveData container slot =>
        obtain rfl := Option.some.inj wipes
        simp only [openArchive, directory, if_true]
  · rintro id rfl
    exact wiped.contents location id outside spared stands

def usedCard : Host :=
  let places := ["m", "Nintendo 3DS", "s", "c", "title", "00000000", "00000000", "data", "00000001"]
  (((Host.empty []).descend [] places).1.addFile (places ++ ["old"])).setContents 0 (.ofBytes [0xAA])

def cardFactory (card : String) : Factory := saveData (Layout.titleContainer (.ofString card) "s" "c") 0

def someInfo : FormatInfo := ⟨512, 1, 2, 1, 7, 8, 9⟩

theorem format_wipes_usedCard :
    Mount.Fresh ⟨.saveData, Layout.titleInstance (Layout.titleContainer (.ofString "/m") "s" "c") 0⟩
        ((cardFactory "/m").format [0] usedCard .empty someInfo).1 ∧
      (cardFactory "/m").formatInfo [0] ((cardFactory "/m").format [0] usedCard .empty someInfo).1 .empty =
        .ok someInfo := by
  have wipes : (cardFactory "/m").wiped? [0] .empty =
      some (Layout.titleInstance (Layout.titleContainer (.ofString "/m") "s" "c") 0) := rfl
  have formats : ((cardFactory "/m").format [0] usedCard .empty someInfo).2 = .ok () := by decide +kernel
  have founded : usedCard.Founded _ :=
    Host.founded_of_isAbsolute (named_of_wiped? wipes) (by decide +kernel)
  obtain ⟨-, -, fresh, remembers, -⟩ := format_wipes wipes founded (Prod.ext rfl formats)
  exact ⟨fresh (by decide +kernel), remembers _ rfl⟩

theorem format_keeps_contents :
    ((cardFactory "/gone/../m").format [0] usedCard .empty someInfo).2 = .ok () ∧
      (Mount.openDirectory
        ⟨.saveData, Layout.titleInstance (Layout.titleContainer (.ofString "/gone/../m") "s" "c") 0⟩
        ((cardFactory "/gone/../m").format [0] usedCard .empty someInfo).1 (.char "/")) =
          .ok ⟨[⟨"old", false, 1⟩], 0⟩ := by
  decide +kernel

end Factory

end GuestStorage
