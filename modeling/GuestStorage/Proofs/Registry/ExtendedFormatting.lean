import GuestStorage.Proofs.Registry.FreshArchives
import GuestStorage.Proofs.Registry.Factories

namespace GuestStorage

open HostPath

namespace Host

variable {host after : Host} {base : HostPath} {name : String}

theorem proper_single (proper : Proper name) : ∀ part ∈ [name], Proper part :=
  fun _ member => List.mem_singleton.mp member ▸ proper

theorem start_child (host : Host) (base : HostPath) (proper : Proper name) :
    host.start (base.child name) = host.start base := by
  have same : (base.child name).isAbsolute = base.isAbsolute :=
    isAbsolute_descendant base fun part member => (proper_single proper part member).ne_empty
  rw [start, same, start]

theorem site_child (host : Host) (base : HostPath) (proper : Proper name) :
    host.site (base.child name) = host.site base ++ [name] :=
  host.site_descendant base (proper_single proper)

theorem hasZero_child (base : HostPath) (unterminated : '\x00' ∉ name.toList) :
    hasZero (base.child name) = hasZero ⟨base.stem⟩ := by
  simp [hasZero, unterminated]

structure Reaches (host : Host) (base : HostPath) : Prop where
  clear : hasZero ⟨base.stem⟩ = false
  resolves : Resolves host.tree (host.start base) base.stem (.found (host.site base) .directory)

namespace Reaches

theorem of_lookup {location : Location} {entry : Entry} (ordinary : OrdinaryName name)
    (found : host.lookup (base.child name) = .ok (location, entry)) : host.Reaches base := by
  have located := locate_of_lookup found
  have resolves := resolves_of_locate located
  rw [start_child host base ordinary.proper, parts_child] at resolves
  obtain ⟨between, middle, first, second⟩ := resolves.split rfl
  have directory : host.tree.find? between = some .directory := by
    cases second with
    | stay directory | up directory | down directory => exact directory
  have place : between = host.site base := first.location_eq.trans (foldl_follow_stem base _)
  have kind : middle = .directory := Option.some.inj (first.stands.symm.trans directory)
  refine ⟨?_, place ▸ kind ▸ first⟩
  rw [← hasZero_child base ordinary.unterminated]
  exact hasZero_of_locate located

theorem lookup_child (reaches : host.Reaches base) (ordinary : OrdinaryName name) {entry : Entry}
    (stands : host.tree.find? (host.site base ++ [name]) = some entry) :
    host.lookup (base.child name) = .ok (host.site base ++ [name], entry) := by
  have below := resolves_down (fun _ member => List.mem_singleton.mp member ▸ ordinary.names) stands
  have whole := walk_of_resolves (reaches.resolves.append below)
  rw [← parts_child, ← start_child host base ordinary.proper] at whole
  have clear := reaches.clear
  rw [← hasZero_child base ordinary.unterminated] at clear
  have nonempty : (base.child name).isEmpty = false := by
    simp [isEmpty, ordinary.proper.ne_empty]
  rw [lookup, locate, if_neg (Bool.eq_false_iff.mp clear), if_neg (Bool.eq_false_iff.mp nonempty), whole]

end Reaches

end Host

/-- What a guest sees of an instance. -/
def Layout.extUser (container : HostPath) (path : GuestPath) : HostPath :=
  (extInstance container path).child "user"

namespace Factory

theorem ordinary_user : OrdinaryName "user" := by decide

theorem ordinary_boss : OrdinaryName "boss" := by decide

theorem ordinary_metadata : OrdinaryName "metadata" := by decide

def furnish (host : Host) (base : HostPath) : Host :=
  ((host.createDirectories (base.child "user")).1.createDirectories (base.child "boss")).1

section

variable {host after : Host} {base : HostPath} {data : Bytes}

theorem through_child_iff {name : String} (proper : Proper name) {location : Location} :
    host.Through (base.child name) location ↔
      Passes (host.start base) base.stem location ∨ location = host.site base ++ [name] := by
  rw [Host.Through, parts_child, Passes.concat_iff, Host.start_child host base proper, foldl_follow_stem,
    follow_proper proper, Host.site]

theorem user_made (founded : host.tree.find? (host.start base) = some .directory) :
    DirectoriesMadeAt (host.Through (base.child "user")) host
      (host.createDirectories (base.child "user")).1 := by
  refine Host.createDirectories_along ?_
  rwa [Host.start_child host base ordinary_user.proper]

theorem boss_made (founded : host.tree.find? (host.start base) = some .directory) :
    DirectoriesMadeAt (host.Through (base.child "boss")) (host.createDirectories (base.child "user")).1
      (furnish host base) := by
  have user := user_made founded
  rw [← Host.through_eq user.workingDirectory]
  refine Host.createDirectories_along ?_
  rw [Host.start_child _ base ordinary_boss.proper, Host.start_eq user.workingDirectory]
  exact user.keepsDirectories _ founded

theorem furnish_made (founded : host.tree.find? (host.start base) = some .directory) :
    DirectoriesMadeAt (fun location => host.Through (base.child "user") location ∨
      host.Through (base.child "boss") location) host (furnish host base) :=
  ((user_made founded).mono fun _ => .inl).trans ((boss_made founded).mono fun _ => .inr)

theorem furnish_user (founded : host.tree.find? (host.start base) = some .directory)
    (clear : Host.hasZero ⟨base.stem⟩ = false) (followable : ∀ part ∈ base.stem, Host.Followable part)
    (free : ∀ location, host.Through (base.child "user") location → ∀ id,
      host.tree.find? location ≠ some (.file id)) :
    (furnish host base).tree.find? (host.site base ++ ["user"]) = some .directory := by
  have directory : host.tree.find? (host.start (base.child "user")) = some .directory := by
    rwa [Host.start_child host base ordinary_user.proper]
  have succeeds : (host.descend (host.start (base.child "user")) (base.child "user").parts).2 = .ok () := by
    refine Host.descend_succeeds_along directory (fun part member => ?_) (fun last ends => ?_) free
    · rw [parts_child, List.mem_append, List.mem_singleton] at member
      rcases member with inside | rfl
      · exact followable part inside
      · exact .inr (.inr ordinary_user.names)
    · rw [parts_child, List.getLast?_concat] at ends
      rw [← Option.some.inj ends]
      exact ordinary_user.proper.nontrivial
  have makes : (host.createDirectories (base.child "user")).2 = .ok () := by
    rw [← Host.hasZero_child base ordinary_user.unterminated] at clear
    rw [Host.createDirectories, if_neg (Bool.eq_false_iff.mp clear), succeeds]
  have stands := (Host.leads_of_createDirectories directory (Prod.ext rfl makes)).find?_site
  rw [Host.site_eq (user_made founded).workingDirectory,
    Host.site_child host base ordinary_user.proper] at stands
  exact (boss_made founded).keepsDirectories _ stands

structure Furnished (base : HostPath) (data : Bytes) (before after : Host) : Prop where
  workingDirectory : after.workingDirectory = before.workingDirectory
  reaches : after.Reaches base
  entries : ∀ location, location ≠ before.site base ++ ["metadata"] →
    after.tree.find? location = before.tree.find? location ∨
      (before.Through (base.child "user") location ∨ before.Through (base.child "boss") location) ∧
        before.tree.find? location = none ∧ after.tree.find? location = some .directory
  contents : ∀ location id, location ≠ before.site base ++ ["metadata"] →
    before.tree.find? location = some (.file id) → after.contents id = before.contents id
  user : (∃ id, before.tree.find? (before.site base ++ ["user"]) = some (.file id)) ∨
    after.tree.find? (before.site base ++ ["user"]) = some .directory

theorem furnished_of_store (founded : host.tree.find? (host.start base) = some .directory)
    (stores : store (furnish host base) (base.child "metadata") data = (after, .ok ())) :
    Furnished base data host after := by
  have made := furnish_made founded
  have named : (base.child "metadata").parts.getLast? ≠ some "" := by simp
  obtain ⟨stored, location, id, leads, -⟩ := stored_of_store named stores
  have same := stored.workingDirectory.trans made.workingDirectory
  rw [Host.site_eq made.workingDirectory, Host.site_child host base ordinary_metadata.proper] at stored
  have reaches := Host.Reaches.of_lookup ordinary_metadata leads
  have entries (location : Location) (apart : location ≠ host.site base ++ ["metadata"]) :
      after.tree.find? location = host.tree.find? location ∨
        (host.Through (base.child "user") location ∨ host.Through (base.child "boss") location) ∧
          host.tree.find? location = none ∧ after.tree.find? location = some .directory := by
    rw [stored.entries location apart]
    exact made.entries location
  refine ⟨same, reaches, entries, fun location id apart stands => ?_, ?_⟩
  · rw [stored.contents location id apart (made.kept stands), made.contents]
  · refine Classical.or_iff_not_imp_left.mpr fun free => ?_
    refine stored.keepsDirectories _ (furnish_user founded reaches.clear reaches.resolves.followable
      fun location through id stands => ?_)
    rcases (through_child_iff ordinary_user.proper).mp through with passes | rfl
    · -- What leads to the metadata is a directory now, so that no file stood there.
      rw [← Host.start_eq same] at passes
      have directory := reaches.resolves.find?_of_passes passes
      have apart : location ≠ host.site base ++ ["metadata"] := by
        rintro rfl
        obtain ⟨id, file, -⟩ := stored.stands
        rw [directory] at file
        cases file
      rw [stored.entries location apart, made.kept stands] at directory
      cases directory
    · exact free ⟨id, stands⟩

theorem user_apart (place : Location) (rest : List String) :
    place ++ ["user"] ++ rest ≠ place ++ ["metadata"] := by
  rw [List.append_assoc, Ne, List.append_cancel_left_eq]
  simp

namespace Furnished

variable (furnished : Furnished base data host after)

include furnished

theorem site_eq (path : HostPath) : after.site path = host.site path :=
  Host.site_eq furnished.workingDirectory path

theorem kept {location : Location} {entry : Entry} (apart : location ≠ host.site base ++ ["metadata"])
    (stands : host.tree.find? location = some entry) : after.tree.find? location = some entry := by
  rcases furnished.entries location apart with same | ⟨-, absent, -⟩
  · rw [same, stands]
  · rw [stands] at absent
    cases absent

theorem lookup_user {entry : Entry} (stands : after.tree.find? (host.site base ++ ["user"]) = some entry) :
    after.lookup (base.child "user") = .ok (after.site (base.child "user"), entry) := by
  rw [Host.site_child after base ordinary_user.proper]
  refine furnished.reaches.lookup_child ordinary_user ?_
  rwa [furnished.site_eq]

theorem user_stands : ∃ entry, after.tree.find? (host.site base ++ ["user"]) = some entry ∧
    (entry = .directory ↔ ∀ id, host.tree.find? (host.site base ++ ["user"]) ≠ some (.file id)) := by
  have apart := user_apart (host.site base) []
  rw [List.append_nil] at apart
  rcases furnished.user with ⟨id, file⟩ | directory
  · exact ⟨.file id, furnished.kept apart file, by simp [file]⟩
  · refine ⟨.directory, directory, iff_of_true rfl fun id file => ?_⟩
    rw [furnished.kept apart file] at directory
    cases directory

theorem hasEntry_user : after.hasEntry (base.child "user") = true := by
  obtain ⟨entry, stands, -⟩ := furnished.user_stands
  rw [Host.hasEntry, Host.entryAt?_eq_some_iff.mpr (furnished.lookup_user stands)]
  rfl

theorem isDirectory_user_iff : after.isDirectory (base.child "user") = true ↔
    ∀ id, host.tree.find? (host.site base ++ ["user"]) ≠ some (.file id) := by
  obtain ⟨entry, stands, kind⟩ := furnished.user_stands
  rw [← kind, Host.isDirectory, Host.entryAt?_eq_some_iff.mpr (furnished.lookup_user stands)]
  simp

theorem keeps {location : Location} {entry : Entry}
    (below : StrictlyBelow (host.site base ++ ["user"]) location)
    (stands : host.tree.find? location = some entry) :
    after.tree.find? location = some entry ∧ ∀ id, entry = .file id → after.contents id = host.contents id := by
  obtain ⟨rest, -, rfl⟩ := below
  refine ⟨furnished.kept (user_apart _ rest) stands, ?_⟩
  rintro id rfl
  exact furnished.contents _ id (user_apart _ rest) stands

theorem absent_iff {location : Location} (below : StrictlyBelow (host.site base ++ ["user"]) location) :
    after.tree.find? location = none ↔
      host.tree.find? location = none ∧ ¬ host.Through (base.child "user") location := by
  obtain ⟨rest, nonempty, rfl⟩ := below
  have inside : host.site base ++ ["user"] ++ rest ≠ host.site base ++ ["user"] := by simp [nonempty]
  have other : host.site base ++ ["user"] ++ rest ≠ host.site base ++ ["boss"] := by simp
  have user : host.Through (base.child "user") (host.site base ++ ["user"] ++ rest) ↔ _ :=
    through_child_iff ordinary_user.proper
  rw [or_iff_left inside] at user
  rw [user]
  constructor
  · intro absent
    refine ⟨?_, fun passes => ?_⟩
    · cases stands : host.tree.find? (host.site base ++ ["user"] ++ rest) with
      | none => rfl
      | some entry =>
          rw [furnished.kept (user_apart _ rest) stands] at absent
          cases absent
    · rw [← Host.start_eq furnished.workingDirectory] at passes
      rw [furnished.reaches.resolves.find?_of_passes passes] at absent
      cases absent
  · rintro ⟨absent, apart⟩
    rcases furnished.entries _ (user_apart _ rest) with same | ⟨through | through, -⟩
    · rw [same, absent]
    · exact absurd (user.mp through) apart
    · exact absurd (((through_child_iff ordinary_boss.proper).mp through).resolve_right other) apart

theorem fresh_iff :
    Mount.Fresh ⟨.extSaveData, base.child "user"⟩ after ↔
      (∀ id, host.tree.find? (host.site base ++ ["user"]) ≠ some (.file id)) ∧
      ∀ location, StrictlyBelow (host.site base ++ ["user"]) location →
        host.tree.find? location = none ∧ ¬ host.Through (base.child "user") location := by
  obtain ⟨entry, stands, kind⟩ := furnished.user_stands
  have found := furnished.lookup_user stands
  have site : after.site (base.child "user") = host.site base ++ ["user"] :=
    (furnished.site_eq _).trans (Host.site_child host base ordinary_user.proper)
  have clear_iff (directory : entry = .directory) : Mount.Fresh ⟨.extSaveData, base.child "user"⟩ after ↔
      ∀ location, StrictlyBelow (after.site (base.child "user")) location → after.tree.find? location = none :=
    Mount.fresh_iff rfl (directory ▸ found)
  rw [← kind]
  constructor
  · intro fresh
    have directory := fresh.isDirectory
    rw [Host.isDirectory, Host.entryAt?_eq_some_iff.mpr found] at directory
    have directory : entry = .directory := Option.some.inj (of_decide_eq_true directory)
    refine ⟨directory, fun location below => (furnished.absent_iff below).mp ?_⟩
    exact (clear_iff directory).mp fresh location (site ▸ below)
  · rintro ⟨directory, clear⟩
    refine (clear_iff directory).mpr fun location below => ?_
    rw [site] at below
    exact (furnished.absent_iff below).mpr (clear location below)

end Furnished

end

section

variable {container : HostPath} {shared : Bool} {titles : Titles} {host after : Host} {path : GuestPath}
  {info : FormatInfo}

/-- What formatting leaves where it succeeds: the instance can be opened, though a file that stood in the place of
its directory still does. All that was in it is there with what it held, so that it is fresh if and only if
nothing was in it before, and its path does not pass through it. -/
theorem extSaveData_format_keeps
    (founded : host.tree.find? (host.start (Layout.extInstance container path)) = some .directory)
    (formats : (extSaveData container shared).format titles host path info = (after, .ok ())) :
    (extSaveData container shared).openArchive titles after path =
        .ok (.mounted ⟨.extSaveData, Layout.extUser container path⟩) ∧
      (after.isDirectory (Layout.extUser container path) = true ↔
        ∀ id, host.tree.find? (host.site (Layout.extUser container path)) ≠ some (.file id)) ∧
      (∀ location entry, StrictlyBelow (host.site (Layout.extUser container path)) location →
        host.tree.find? location = some entry → after.tree.find? location = some entry ∧
          ∀ id, entry = .file id → after.contents id = host.contents id) ∧
      (Mount.Fresh ⟨.extSaveData, Layout.extUser container path⟩ after ↔
        (∀ id, host.tree.find? (host.site (Layout.extUser container path)) ≠ some (.file id)) ∧
        ∀ location, StrictlyBelow (host.site (Layout.extUser container path)) location →
          host.tree.find? location = none ∧ ¬ host.Through (Layout.extUser container path) location) := by
  rw [SaveInstance.format_extSaveData] at formats
  have furnished : Furnished (Layout.extInstance container path) info.toBytes host after :=
    furnished_of_store founded formats
  rw [Layout.extUser, Host.site_child host _ ordinary_user.proper]
  refine ⟨?_, furnished.isDirectory_user_iff, fun _ _ => furnished.keeps, furnished.fresh_iff⟩
  simp only [openArchive, furnished.hasEntry_user, if_true]

end

def cardContainer : HostPath := Layout.extContainer (.ofString "/m") false "s" "c"

def firstInstance : GuestPath := .binary [1, 0, 0, 0, 1, 0, 0, 0, 0, 0, 0, 0]

def formattedCard : Host :=
  ((extSaveData cardContainer false).format [] Host.emptyCard firstInstance ⟨512, 0, 0, 0, 0, 0, 0⟩).1

theorem extSaveData_format_emptyCard :
    Mount.Fresh ⟨.extSaveData, Layout.extUser cardContainer firstInstance⟩ formattedCard := by
  have formats : ((extSaveData cardContainer false).format [] Host.emptyCard firstInstance
      ⟨512, 0, 0, 0, 0, 0, 0⟩).2 = .ok () := by decide +kernel
  have founded : Host.emptyCard.tree.find? (Host.emptyCard.start (Layout.extInstance cardContainer firstInstance)) =
      some .directory := by decide +kernel
  have absent : Host.emptyCard.tree.find? (Host.emptyCard.site (Layout.extUser cardContainer firstInstance)) =
      none := by decide +kernel
  obtain ⟨-, -, -, fresh⟩ := extSaveData_format_keeps founded (Prod.ext rfl formats)
  refine fresh.mpr ⟨fun id => by simp [absent], fun location below => ⟨?_, fun through => ?_⟩⟩
  · obtain ⟨rest, nonempty, rfl⟩ := below
    exact Tree.find?_of_blocked (by simp [absent]) nonempty
  · exact Host.not_below_of_through (by decide +kernel) through below

theorem extSaveData_format_lists_old :
    let used := (Mount.createFile ⟨.extSaveData, Layout.extUser cardContainer firstInstance⟩ formattedCard
      (.char "/old") 4).1
    let again := (extSaveData cardContainer false).format [] used firstInstance ⟨512, 0, 0, 0, 0, 0, 0⟩
    again.2 = .ok () ∧
      Mount.openDirectory ⟨.extSaveData, Layout.extUser cardContainer firstInstance⟩ again.1 (.char "/") =
        .ok ⟨[⟨"old", false, 4⟩], 0⟩ := by
  decide +kernel

end Factory

end GuestStorage
