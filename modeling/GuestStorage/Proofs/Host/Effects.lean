import GuestStorage.Proofs.Host.Calls
import GuestStorage.Proofs.Host.Classification
import GuestStorage.Proofs.Host.Frame

namespace GuestStorage

/-- One entry more, and nothing else is different. -/
structure EntryAdded (location : Location) (entry : Entry) (before after : Host) : Prop where
  entries : ∀ place,
    after.tree.find? place = if place = location then some entry else before.tree.find? place
  contents : ∀ id, id < before.files.length → after.contents id = before.contents id
  workingDirectory : after.workingDirectory = before.workingDirectory

def DirectoryAdded (location : Location) (before after : Host) : Prop :=
  EntryAdded location .directory before after ∧
    ∀ place, StrictlyBelow location place → after.tree.find? place = none

def FileAdded (location : Location) (size : Nat) (before after : Host) : Prop :=
  ∃ id, before.files.length ≤ id ∧ EntryAdded location (.file id) before after ∧
    (after.contents id).toBytes = List.replicate size 0

structure EntriesRemoved (gone : Location → Prop) (before after : Host) : Prop where
  removed : ∀ place, gone place → after.tree.find? place = none
  kept : ∀ place, ¬ gone place → after.tree.find? place = before.tree.find? place
  contents : ∀ id, after.contents id = before.contents id
  workingDirectory : after.workingDirectory = before.workingDirectory

@[simp] theorem Contents.toBytes_zeros (size : Nat) :
    (Contents.zeros size).toBytes = List.replicate size 0 := by
  by_cases nothing : size = 0
  · rw [nothing]
    rfl
  · have total : (Contents.zeros size).size = size := by
      simp [zeros, nothing, empty]
      omega
    apply List.ext_getElem
    · simp [total]
    · intro index left right
      rw [getElem_toBytes, List.getElem_replicate, zeros, if_neg nothing, byteAt_write]
      split
      · rename_i last
        rw [show index - (size - 1) = 0 by
          rw [List.length_singleton] at last
          omega]
        rfl
      · rfl

namespace Tree

variable {tree : Tree} {location : Location}

theorem child_eq_some_iff {standing : Location × Entry} {child : String × Entry} :
    (if standing.1.dropLast = location then standing.1.getLast?.map (·, standing.2) else none) = some child ↔
      standing = (location ++ [child.1], child.2) := by
  obtain ⟨place, entry⟩ := standing
  constructor
  · intro shown
    dsimp only at shown
    split at shown
    · rename_i parent
      obtain ⟨last, ends, rfl⟩ := Option.map_eq_some_iff.mp shown
      obtain ⟨front, rfl⟩ := List.getLast?_eq_some_iff.mp ends
      rw [List.dropLast_concat] at parent
      rw [parent]
    · contradiction
  · intro same
    cases same
    simp

@[simp] theorem mem_children_iff {name : String} {entry : Entry} :
    (name, entry) ∈ tree.children location ↔ tree.find? (location ++ [name]) = some entry := by
  simp only [children, List.mem_filterMap, child_eq_some_iff, exists_eq_right]
  refine ⟨find?_of_mem, fun stands => ?_⟩
  rw [find?_of_ne (by simp)] at stands
  exact mem_of_lookup stands

theorem children_pairwise_ne (tree : Tree) (location : Location) :
    (tree.children location).Pairwise fun left right => left.1 ≠ right.1 := by
  rw [children, List.pairwise_filterMap]
  refine (List.pairwise_map.mp tree.unique).imp fun apart left shown right shownToo same => apart ?_
  rw [child_eq_some_iff.mp shown, child_eq_some_iff.mp shownToo, same]

theorem children_eq_nil_iff :
    tree.children location = [] ↔ ∀ place, StrictlyBelow location place → tree.find? place = none := by
  constructor
  · intro empty place below
    cases stands : tree.find? place with
    | none => rfl
    | some entry => exact absurd empty (children_ne_nil below stands)
  · intro clear
    apply List.eq_nil_iff_forall_not_mem.mpr
    rintro ⟨name, entry⟩ member
    have stands := mem_children_iff.mp member
    rw [clear _ ⟨[name], List.cons_ne_nil name [], rfl⟩] at stands
    cases stands

end Tree

namespace Host

variable {host : Host} {location : Location}

theorem entryAdded_addDirectory (vacant : host.tree.Vacant location) :
    EntryAdded location .directory host (host.addDirectory location) where
  entries := Tree.find?_insert (Tree.admits_of_vacant vacant nofun)
  contents _ _ := rfl
  workingDirectory := rfl

theorem directoryAdded_addDirectory (vacant : host.tree.Vacant location) :
    DirectoryAdded location host (host.addDirectory location) := by
  have added := entryAdded_addDirectory vacant
  refine ⟨added, ?_⟩
  rintro place ⟨rest, nonempty, rfl⟩
  rw [added.entries, if_neg (by simp [nonempty])]
  exact Tree.find?_of_blocked (by simp [vacant.absent]) nonempty

theorem entryAdded_addFile (vacant : host.tree.Vacant location) :
    EntryAdded location (.file host.files.length) host (host.addFile location) where
  entries := Tree.find?_insert (Tree.admits_of_vacant vacant fun _ same member =>
    Nat.lt_irrefl _ (Entry.file.inj same ▸ host.stored _ member))
  contents id old := by
    simp only [contents, addFile, List.getD_eq_getElem?_getD, List.getElem?_append_left old]
  workingDirectory := rfl

theorem fileAdded_setContents (vacant : host.tree.Vacant location) (size : Nat) :
    FileAdded location size host
      ((host.addFile location).setContents host.files.length (.zeros size)) := by
  have added := entryAdded_addFile vacant
  refine ⟨host.files.length, Nat.le_refl _, ⟨added.entries, ?_, rfl⟩, ?_⟩
  · intro id old
    rw [contents_setContents_of_ne _ (Nat.ne_of_lt old), added.contents id old]
  · simp

theorem fileAdded_addFile (vacant : host.tree.Vacant location) :
    FileAdded location 0 host (host.addFile location) := by
  have added := fileAdded_setContents vacant 0
  simpa [Contents.zeros] using added

theorem entriesRemoved_removeAll (nonempty : location ≠ []) :
    EntriesRemoved (location <+: ·) host (host.removeAll location) where
  removed place below := by
    have inside : place ≠ [] := by
      rintro rfl
      exact nonempty (List.prefix_nil.mp below)
    exact (Tree.find?_remove host.tree location place inside).trans (if_pos below)
  kept _ outside := Tree.find?_remove_of_not_prefix outside
  contents _ := rfl
  workingDirectory := rfl

theorem entriesRemoved_leaf (nonempty : location ≠ [])
    (clear : ∀ place, StrictlyBelow location place → host.tree.find? place = none) :
    EntriesRemoved (· = location) host (host.removeAll location) := by
  have whole : EntriesRemoved (location <+: ·) host (host.removeAll location) :=
    entriesRemoved_removeAll nonempty
  refine ⟨?_, ?_, whole.contents, whole.workingDirectory⟩
  · rintro place rfl
    exact whole.removed _ (List.prefix_refl _)
  · intro place apart
    by_cases below : location <+: place
    · obtain ⟨rest, rfl⟩ := below
      have inside : rest ≠ [] := by
        rintro rfl
        exact apart (List.append_nil location)
      rw [whole.removed _ (List.prefix_append ..), clear _ ⟨rest, inside, rfl⟩]
    · exact whole.kept place below

variable {mountPoint : HostPath} {segments : List String}

theorem createDirectory_of_vacant (addressed : host.Addressed mountPoint segments)
    (vacant : host.tree.Vacant (host.site mountPoint ++ segments)) :
    host.createDirectory (mountPoint.descendant segments) =
      .ok (host.addDirectory (host.site mountPoint ++ segments)) := by
  obtain ⟨parent, name, whole, located⟩ := addressed.locate_vacant vacant
  simp only [createDirectory, located, whole]

theorem removeFile_of_file (addressed : host.Addressed mountPoint segments) {id : Nat}
    (stands : host.tree.find? (host.site mountPoint ++ segments) = some (.file id)) :
    host.removeFile (mountPoint.descendant segments) =
      .ok (host.removeAll (host.site mountPoint ++ segments)) := by
  simp only [removeFile, addressed.lookup_descendant stands]

end Host

end GuestStorage
