import GuestStorage.Proofs.Host.Media
import GuestStorage.Proofs.Host.Placement

namespace GuestStorage

namespace Tree

theorem find?_insert_of_ne {tree : Tree} {location place : Location} (entry : Entry)
    (apart : place ≠ location) : (tree.insert location entry).find? place = tree.find? place := by
  by_cases admitted : tree.admits location entry
  · rw [find?_insert admitted, if_neg apart]
  · rw [insert, dif_neg admitted]

theorem find?_remove_of_not_prefix {tree : Tree} {location place : Location}
    (apart : ¬ location <+: place) : (tree.remove location).find? place = tree.find? place := by
  by_cases root : place = []
  · simp [root]
  · rw [find?_remove tree location place root, if_neg apart]

theorem find?_move_of_not_prefix {tree : Tree} {source target place : Location}
    (apartSource : ¬ source <+: place) (apartTarget : ¬ target <+: place) :
    (tree.move source target).find? place = tree.find? place := by
  by_cases root : place = []
  · simp [root]
  · by_cases allowed : tree.movable source target
    · rw [find?_move allowed root, if_neg apartTarget, if_neg apartSource]
    · rw [move, dif_neg allowed]

end Tree

/-- Whatever is not strictly below the place stands as it stood, with what it held, and nothing came to
stand there. -/
structure SameOutside (site : Location) (before after : Host) : Prop where
  workingDirectory : after.workingDirectory = before.workingDirectory
  entries : ∀ location, ¬ StrictlyBelow site location →
    after.tree.find? location = before.tree.find? location
  contents : ∀ location id, ¬ StrictlyBelow site location →
    before.tree.find? location = some (.file id) → after.contents id = before.contents id

def OnlyInside (site : Location) (host : Host) (id : Nat) : Prop :=
  ∀ location, ¬ StrictlyBelow site location → host.tree.find? location ≠ some (.file id)

namespace SameOutside

variable {site : Location} {before between after host : Host}

theorem refl (site : Location) (host : Host) : SameOutside site host host :=
  ⟨rfl, fun _ _ => rfl, fun _ _ _ _ => rfl⟩

theorem trans (first : SameOutside site before between) (second : SameOutside site between after) :
    SameOutside site before after where
  workingDirectory := second.workingDirectory.trans first.workingDirectory
  entries location outside := (second.entries location outside).trans (first.entries location outside)
  contents location id outside stands :=
    (second.contents location id outside ((first.entries location outside).trans stands)).trans
      (first.contents location id outside stands)

theorem site_eq (same : SameOutside site before after) (path : HostPath) :
    after.site path = before.site path := by
  rw [Host.site, Host.site, Host.start, Host.start, same.workingDirectory]

theorem addDirectory {location : Location} (below : StrictlyBelow site location) :
    SameOutside site host (host.addDirectory location) where
  workingDirectory := rfl
  entries _ outside :=
    Tree.find?_insert_of_ne _ fun same => outside (same ▸ below)
  contents _ _ _ _ := rfl

theorem addFile {location : Location} (below : StrictlyBelow site location) :
    SameOutside site host (host.addFile location) where
  workingDirectory := rfl
  entries _ outside :=
    Tree.find?_insert_of_ne _ fun same => outside (same ▸ below)
  contents place id _ stands := by
    have stored := host.stored id (Tree.mem_fileIds_of_find? stands)
    simp only [Host.contents, Host.addFile, List.getD_eq_getElem?_getD, List.getElem?_append_left stored]

theorem removeAll {location : Location} (below : StrictlyBelow site location) :
    SameOutside site host (host.removeAll location) where
  workingDirectory := rfl
  entries _ outside :=
    Tree.find?_remove_of_not_prefix fun inside => outside (below.of_prefix inside)
  contents _ _ _ _ := rfl

theorem move {source target : Location} (belowSource : StrictlyBelow site source)
    (belowTarget : StrictlyBelow site target) :
    SameOutside site host (host.move source target) where
  workingDirectory := rfl
  entries _ outside :=
    Tree.find?_move_of_not_prefix (fun inside => outside (belowSource.of_prefix inside))
      fun inside => outside (belowTarget.of_prefix inside)
  contents _ _ _ _ := rfl

theorem setContents {id : Nat} (inside : OnlyInside site host id) (contents : Contents) :
    SameOutside site host (host.setContents id contents) where
  workingDirectory := rfl
  entries _ _ := rfl
  contents location other outside stands := by
    have apart : other ≠ id := by
      rintro rfl
      exact inside location outside stands
    exact Host.contents_setContents_of_ne host apart contents

end SameOutside

namespace OnlyInside

variable {site : Location} {before after host : Host} {id : Nat}

theorem of_find? {location : Location} (below : StrictlyBelow site location)
    (stands : host.tree.find? location = some (.file id)) : OnlyInside site host id :=
  fun _ outside found => outside (Tree.file_location_unique stands found ▸ below)

theorem next (site : Location) (host : Host) : OnlyInside site host host.files.length :=
  fun _ _ found => Nat.lt_irrefl _ (host.stored _ (Tree.mem_fileIds_of_find? found))

theorem transfer (inside : OnlyInside site before id) (same : SameOutside site before after) :
    OnlyInside site after id :=
  fun location outside found => inside location outside ((same.entries location outside).symm.trans found)

end OnlyInside

/-- The hosts that single changes lead to, each of an entry strictly below the place. -/
inductive ChangedBelow (site : Location) (origin : Host) : Host → Prop
  | unchanged : ChangedBelow site origin origin
  | directoryAdded {host : Host} {location : Location} (earlier : ChangedBelow site origin host)
      (below : StrictlyBelow site location) : ChangedBelow site origin (host.addDirectory location)
  | fileAdded {host : Host} {location : Location} (earlier : ChangedBelow site origin host)
      (below : StrictlyBelow site location) : ChangedBelow site origin (host.addFile location)
  | removed {host : Host} {location : Location} (earlier : ChangedBelow site origin host)
      (below : StrictlyBelow site location) : ChangedBelow site origin (host.removeAll location)
  | moved {host : Host} {source target : Location} (earlier : ChangedBelow site origin host)
      (belowSource : StrictlyBelow site source) (belowTarget : StrictlyBelow site target) :
      ChangedBelow site origin (host.move source target)
  | written {host : Host} {id : Nat} (earlier : ChangedBelow site origin host)
      (inside : OnlyInside site host id) (contents : Contents) :
      ChangedBelow site origin (host.setContents id contents)

namespace ChangedBelow

variable {site : Location} {before between after : Host}

theorem sameOutside (changed : ChangedBelow site before after) : SameOutside site before after := by
  induction changed with
  | unchanged => exact .refl site before
  | directoryAdded _ below ih => exact ih.trans (.addDirectory below)
  | fileAdded _ below ih => exact ih.trans (.addFile below)
  | removed _ below ih => exact ih.trans (.removeAll below)
  | moved _ belowSource belowTarget ih => exact ih.trans (.move belowSource belowTarget)
  | written _ inside contents ih => exact ih.trans (.setContents inside contents)

theorem trans (first : ChangedBelow site before between) (second : ChangedBelow site between after) :
    ChangedBelow site before after := by
  induction second with
  | unchanged => exact first
  | directoryAdded _ below ih => exact ih.directoryAdded below
  | fileAdded _ below ih => exact ih.fileAdded below
  | removed _ below ih => exact ih.removed below
  | moved _ belowSource belowTarget ih => exact ih.moved belowSource belowTarget
  | written _ inside contents ih => exact ih.written inside contents

end ChangedBelow

end GuestStorage
