import GuestStorage.Proofs.Host.Regions

namespace GuestStorage

open HostPath

/-- The place is where the parts lead, or on the way there. -/
def Passes (place : Location) (parts : List String) (location : Location) : Prop :=
  ∃ front, front <+: parts ∧ location = front.foldl follow place

namespace Passes

variable {place location : Location} {parts : List String}

theorem start (place : Location) (parts : List String) : Passes place parts place :=
  ⟨[], List.nil_prefix, rfl⟩

theorem cons {part : String} {rest : List String} (onward : Passes (follow place part) rest location) :
    Passes place (part :: rest) location := by
  obtain ⟨front, prior, rfl⟩ := onward
  exact ⟨part :: front, List.cons_prefix_cons.mpr ⟨rfl, prior⟩, rfl⟩

theorem concat_iff {part : String} : Passes place (parts ++ [part]) location ↔
    Passes place parts location ∨ location = follow (parts.foldl follow place) part := by
  constructor
  · rintro ⟨front, prior, rfl⟩
    rcases List.prefix_concat_iff.mp prior with rfl | earlier
    · exact .inr List.foldl_append
    · exact .inl ⟨front, earlier, rfl⟩
  · rintro (⟨front, prior, rfl⟩ | rfl)
    · exact ⟨front, prior.trans (List.prefix_append ..), rfl⟩
    · exact ⟨_, List.prefix_refl _, by rw [List.foldl_append, List.foldl_cons, List.foldl_nil]⟩

theorem above (downward : ".." ∉ parts) (passes : Passes place parts location) :
    location <+: parts.foldl follow place := by
  obtain ⟨front, ⟨back, rfl⟩, rfl⟩ := passes
  rw [List.foldl_append]
  have climbs (part : String) (member : part ∈ back) : part ≠ ".." := by
    rintro rfl
    exact downward (List.mem_append_right _ member)
  generalize front.foldl follow place = place
  clear downward
  induction back generalizing place with
  | nil => exact List.prefix_refl _
  | cons part rest ih =>
      have onward := ih (fun other member => climbs other (List.mem_cons_of_mem _ member)) (follow place part)
      refine List.IsPrefix.trans ?_ onward
      rw [follow, if_neg (climbs part List.mem_cons_self)]
      split
      · exact List.prefix_refl _
      · exact List.prefix_append ..

end Passes

structure DirectoriesMadeAt (places : Location → Prop) (before after : Host) : Prop where
  workingDirectory : after.workingDirectory = before.workingDirectory
  files : after.files = before.files
  entries : ∀ location, after.tree.find? location = before.tree.find? location ∨
    places location ∧ before.tree.find? location = none ∧ after.tree.find? location = some .directory

namespace DirectoriesMadeAt

variable {places more : Location → Prop} {before between after host : Host}

theorem refl (places : Location → Prop) (host : Host) : DirectoriesMadeAt places host host :=
  ⟨rfl, rfl, fun _ => .inl rfl⟩

theorem mono (made : DirectoriesMadeAt places before after)
    (inside : ∀ location, places location → more location) : DirectoriesMadeAt more before after :=
  ⟨made.workingDirectory, made.files, fun location =>
    (made.entries location).imp_right (.imp_left (inside location))⟩

theorem addDirectory {location : Location} (vacant : host.tree.Vacant location) :
    DirectoriesMadeAt (· = location) host (host.addDirectory location) := by
  have added := Host.entryAdded_addDirectory vacant
  refine ⟨rfl, rfl, fun place => ?_⟩
  rw [added.entries]
  by_cases here : place = location
  · rw [if_pos here]
    exact .inr ⟨here, here ▸ vacant.absent, rfl⟩
  · rw [if_neg here]
    exact .inl rfl

theorem trans (first : DirectoriesMadeAt places before between)
    (second : DirectoriesMadeAt places between after) : DirectoriesMadeAt places before after where
  workingDirectory := second.workingDirectory.trans first.workingDirectory
  files := second.files.trans first.files
  entries location := by
    rcases first.entries location with same | ⟨inside, absent, made⟩
    · rw [← same]
      exact second.entries location
    · rcases second.entries location with kept | ⟨-, missing, -⟩
      · exact .inr ⟨inside, absent, kept.trans made⟩
      · rw [made] at missing
        cases missing

theorem keepsDirectories (made : DirectoriesMadeAt places before after) : before.KeepsDirectories after := by
  intro location stands
  rcases made.entries location with same | ⟨-, -, directory⟩
  · rw [same, stands]
  · exact directory

theorem kept (made : DirectoriesMadeAt places before after) {location : Location} {entry : Entry}
    (stands : before.tree.find? location = some entry) : after.tree.find? location = some entry := by
  rcases made.entries location with same | ⟨-, absent, -⟩
  · rw [same, stands]
  · rw [stands] at absent
    cases absent

theorem contents (made : DirectoriesMadeAt places before after) (id : Nat) :
    after.contents id = before.contents id :=
  Host.contents_of_files made.files id

end DirectoriesMadeAt

namespace Host

variable {host after : Host} {place : Location} {parts : List String} {path : HostPath}

theorem Resolves.find?_of_passes {tree : Tree} {location between : Location}
    (resolves : Resolves tree place parts (.found location .directory)) (passes : Passes place parts between) :
    tree.find? between = some .directory := by
  obtain ⟨front, ⟨back, rfl⟩, rfl⟩ := passes
  obtain ⟨middle, entry, first, second⟩ := resolves.split rfl
  have place : middle = front.foldl follow place := first.location_eq
  rw [← place]
  exact second.find?_start

theorem Resolves.transfer {before after : Tree} {location : Location}
    (resolves : Resolves before place parts (.found location .directory))
    (passed : ∀ between, Passes place parts between → after.find? between = some .directory) :
    Resolves after place parts (.found location .directory) := by
  generalize target : Spot.found location .directory = spot at resolves ⊢
  induction resolves with
  | done =>
      cases target
      exact .done (passed _ (.start ..))
  | @stay place part rest _ _ trivial _ ih =>
      have step : follow place part = place := if_pos trivial
      exact .stay (passed _ (.start ..)) trivial
        (ih (fun between passes => passed between (.cons (step.symm ▸ passes))) target)
  | up _ _ ih =>
      exact .up (passed _ (.start ..)) (ih (fun between passes => passed between (.cons passes)) target)
  | @down place part rest _ _ named _ _ ih =>
      have step : follow place part = place ++ [part] := follow_proper ⟨named.nontrivial, named.notUp⟩
      have onward := ih (fun between passes => passed between (.cons (step.symm ▸ passes))) target
      subst target
      exact .down (passed _ (.start ..)) named (by rw [onward.find?_start]; rfl) onward
  | missing => cases target

theorem find?_follow_up {tree : Tree} (directory : tree.find? place = some .directory) :
    tree.find? place.dropLast = some .directory := by
  by_cases root : place = []
  · rw [root]
    exact tree.find?_nil
  · exact Tree.find?_dropLast root directory

def Followable (part : String) : Prop := isTrivial part = true ∨ part = ".." ∨ Names part

theorem descend_step (directory : host.tree.find? place = some .directory) (part : String) (rest : List String) :
    ((∃ cause, host.descend place (part :: rest) = (host, .error cause)) ∧
      (¬ Followable part ∨ (∃ id, host.tree.find? (follow place part) = some (.file id)) ∨
        rest ≠ [] ∧ ∀ other ∈ rest, isTrivial other = true)) ∨
      Followable part ∧
        ∃ between, host.descend place (part :: rest) = between.descend (follow place part) rest ∧
          between.tree.find? (follow place part) = some .directory ∧
          DirectoriesMadeAt (· = follow place part) host between := by
  rw [descend, follow]
  by_cases trivial : isTrivial part = true
  · rw [if_pos trivial, if_pos trivial]
    exact .inr ⟨.inl trivial, host, rfl, directory, .refl _ host⟩
  rw [if_neg trivial, if_neg trivial]
  by_cases up : part = ".."
  · rw [if_pos up, if_pos up]
    exact .inr ⟨.inr (.inl up), host, rfl, find?_follow_up directory, .refl _ host⟩
  rw [if_neg up, if_neg up]
  by_cases long : maxNameLength < part.utf8ByteSize
  · rw [if_pos long]
    refine .inl ⟨⟨_, rfl⟩, .inl ?_⟩
    rintro (impossible | impossible | named)
    · exact trivial impossible
    · exact up impossible
    · exact Nat.not_le.mpr long named.short
  rw [if_neg long]
  have named : Followable part := .inr (.inr ⟨Bool.eq_false_iff.mpr trivial, up, Nat.not_lt.mp long⟩)
  cases stands : host.tree.find? (place ++ [part]) with
  | none =>
      dsimp only
      split
      -- Nothing is made where only points follow the missing name.
      · rename_i point
        rw [Bool.and_eq_true, List.all_eq_true] at point
        refine .inl ⟨⟨_, rfl⟩, .inr (.inr ⟨?_, point.2⟩)⟩
        rintro rfl
        cases point.1
      · have vacant := vacant_child directory stands
        exact .inr ⟨named, _, rfl, find?_addDirectory vacant, .addDirectory vacant⟩
  | some entry =>
      cases entry with
      | directory => exact .inr ⟨named, host, rfl, stands, .refl _ host⟩
      | file id => exact .inl ⟨⟨_, rfl⟩, .inr (.inl ⟨id, rfl⟩)⟩

theorem descend_along (directory : host.tree.find? place = some .directory) :
    DirectoriesMadeAt (Passes place parts) host (host.descend place parts).1 := by
  induction parts generalizing host place with
  | nil => exact .refl _ host
  | cons part rest ih =>
      rcases descend_step directory part rest with ⟨⟨cause, fails⟩, -⟩ | ⟨-, between, goes, stands, made⟩
      · rw [fails]
        exact .refl _ host
      · rw [goes]
        exact (made.mono fun _ here => here ▸ .cons (.start ..)).trans ((ih stands).mono fun _ => .cons)

theorem resolves_of_descend (directory : host.tree.find? place = some .directory)
    (descends : host.descend place parts = (after, .ok ())) :
    Resolves after.tree place parts (.found (parts.foldl follow place) .directory) := by
  induction parts generalizing host place with
  | nil =>
      cases descends
      exact .done directory
  | cons part rest ih =>
      have along : DirectoriesMadeAt (Passes place (part :: rest)) host _ := descend_along directory
      rw [descends] at along
      have here := along.keepsDirectories place directory
      rcases descend_step directory part rest with ⟨⟨cause, fails⟩, -⟩ | ⟨kind, between, goes, stands, -⟩
      · rw [fails] at descends
        cases descends
      · rw [goes] at descends
        have onward := ih stands descends
        rcases kind with trivial | rfl | named
        · rw [follow, if_pos trivial] at onward
          rw [List.foldl_cons, follow, if_pos trivial]
          exact .stay here trivial onward
        · exact .up here onward
        · rw [follow_proper ⟨named.nontrivial, named.notUp⟩] at onward
          rw [List.foldl_cons, follow_proper ⟨named.nontrivial, named.notUp⟩]
          exact .down here named (by rw [onward.find?_start]; rfl) onward

theorem Resolves.followable {tree : Tree} {location : Location} {entry : Entry}
    (resolves : Resolves tree place parts (.found location entry)) : ∀ part ∈ parts, Followable part := by
  generalize target : Spot.found location entry = spot at resolves
  induction resolves with
  | done => exact nofun
  | stay _ trivial _ ih => exact List.forall_mem_cons.mpr ⟨.inl trivial, ih target⟩
  | up _ _ ih => exact List.forall_mem_cons.mpr ⟨.inr (.inl rfl), ih target⟩
  | down _ named _ _ ih => exact List.forall_mem_cons.mpr ⟨.inr (.inr named), ih target⟩
  | missing => cases target

/-- Only a name that is too long, a file on the way, or a point at the end keeps the directories from being
made. -/
theorem descend_succeeds_along (directory : host.tree.find? place = some .directory)
    (followable : ∀ part ∈ parts, Followable part)
    (named : ∀ last, parts.getLast? = some last → isTrivial last = false)
    (clear : ∀ location, Passes place parts location → ∀ id, host.tree.find? location ≠ some (.file id)) :
    (host.descend place parts).2 = .ok () := by
  induction parts generalizing host place with
  | nil => rfl
  | cons part rest ih =>
      rcases descend_step directory part rest with ⟨-, unfollowable | ⟨id, file⟩ | ⟨more, trivial⟩⟩ |
        ⟨-, between, goes, stands, made⟩
      · exact absurd (followable part List.mem_cons_self) unfollowable
      · exact absurd file (clear _ (.cons (.start ..)) id)
      · have ends : (part :: rest).getLast? = some (rest.getLast more) := by
          rw [List.getLast?_cons, List.getLast?_eq_some_getLast more, Option.getD_some]
        have last := named _ ends
        rw [trivial _ (List.getLast_mem more)] at last
        cases last
      · rw [goes]
        refine ih stands (fun other member => followable other (List.mem_cons_of_mem _ member))
          (fun last ends => named last (by rw [List.getLast?_cons, ends]; rfl)) fun location passes id file => ?_
        rcases made.entries location with same | ⟨-, -, created⟩
        · exact clear location (.cons passes) id (same ▸ file)
        · rw [created] at file
          cases file

def Through (host : Host) (path : HostPath) : Location → Prop := Passes (host.start path) path.parts

theorem not_below_of_through (downward : ".." ∉ path.parts) {location : Location}
    (through : host.Through path location) : ¬ StrictlyBelow (host.site path) location := by
  rintro ⟨rest, nonempty, rfl⟩
  have short := (through.above downward).length_le
  rw [← site, List.length_append] at short
  exact nonempty (List.length_eq_zero_iff.mp (by omega))

theorem createDirectories_along (directory : host.tree.find? (host.start path) = some .directory) :
    DirectoriesMadeAt (host.Through path) host (host.createDirectories path).1 := by
  rw [createDirectories]
  split
  · exact .refl _ host
  · exact descend_along directory

theorem start_eq (same : after.workingDirectory = host.workingDirectory) (path : HostPath) :
    after.start path = host.start path := by
  rw [start, start, same]

theorem site_eq (same : after.workingDirectory = host.workingDirectory) (path : HostPath) :
    after.site path = host.site path := by
  rw [site, site, start_eq same]

theorem through_eq (same : after.workingDirectory = host.workingDirectory) (path : HostPath) :
    after.Through path = host.Through path := by
  rw [Through, Through, start_eq same]

structure Leads (host : Host) (path : HostPath) : Prop where
  clear : hasZero path = false
  resolves : Resolves host.tree (host.start path) path.parts (.found (host.site path) .directory)

theorem leads_of_createDirectories (directory : host.tree.find? (host.start path) = some .directory)
    (makes : host.createDirectories path = (after, .ok ())) : after.Leads path := by
  have along := createDirectories_along directory
  rw [makes] at along
  rw [createDirectories] at makes
  split at makes
  · cases makes
  · have resolves := resolves_of_descend directory makes
    refine ⟨Bool.eq_false_iff.mpr ‹_›, ?_⟩
    rwa [site, start_eq along.workingDirectory]

namespace Leads

theorem find?_site (leads : host.Leads path) : host.tree.find? (host.site path) = some .directory :=
  leads.resolves.stands

theorem lookup_eq (leads : host.Leads path) (nonempty : path.isEmpty = false) :
    host.lookup path = .ok (host.site path, .directory) := by
  rw [lookup, locate, if_neg (Bool.eq_false_iff.mp leads.clear), if_neg (Bool.eq_false_iff.mp nonempty),
    walk_of_resolves leads.resolves]

theorem find?_through (leads : host.Leads path) {location : Location} (through : host.Through path location) :
    host.tree.find? location = some .directory :=
  leads.resolves.find?_of_passes through

theorem persists (leads : host.Leads path) (kept : host.KeepsDirectories after)
    (same : after.workingDirectory = host.workingDirectory) : after.Leads path := by
  refine ⟨leads.clear, ?_⟩
  rw [site_eq same, start_eq same]
  exact leads.resolves.persists kept

theorem of_stands (leads : after.Leads path) (downward : ".." ∉ path.parts)
    (same : after.workingDirectory = host.workingDirectory)
    (stands : host.tree.find? (host.site path) = some .directory) : host.Leads path := by
  refine ⟨leads.clear, ?_⟩
  have resolves := leads.resolves
  rw [site_eq same, start_eq same] at resolves
  refine resolves.transfer fun location passes => ?_
  -- What the path passes is above its end, and above a directory stand directories.
  obtain ⟨rest, whole⟩ := passes.above downward
  rw [site, ← whole] at stands
  by_cases here : rest = []
  · rwa [here, List.append_nil] at stands
  · exact Tree.find?_above rest here stands

end Leads

end Host

end GuestStorage
