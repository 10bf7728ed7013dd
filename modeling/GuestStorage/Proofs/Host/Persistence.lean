import GuestStorage.Proofs.Host.Effects

namespace GuestStorage

def Host.KeepsDirectories (before after : Host) : Prop :=
  ∀ location, before.tree.find? location = some .directory → after.tree.find? location = some .directory

namespace Host

theorem KeepsDirectories.refl (host : Host) : KeepsDirectories host host := fun _ stands => stands

theorem KeepsDirectories.trans {before between after : Host} (first : KeepsDirectories before between)
    (second : KeepsDirectories between after) : KeepsDirectories before after :=
  fun location stands => second location (first location stands)

theorem Resolves.find?_start {tree : Tree} {place location : Location} {parts : List String}
    (resolves : Resolves tree place parts (.found location .directory)) :
    tree.find? place = some .directory := by
  cases resolves with
  | done stands => exact stands
  | stay directory | up directory | down directory => exact directory

theorem Resolves.persists {before after : Tree} {place location : Location} {parts : List String}
    (resolves : Resolves before place parts (.found location .directory))
    (kept : ∀ location, before.find? location = some .directory →
      after.find? location = some .directory) :
    Resolves after place parts (.found location .directory) := by
  generalize target : Spot.found location .directory = spot at resolves ⊢
  induction resolves with
  | done stands =>
      cases target
      exact .done (kept _ stands)
  | stay directory trivial _ ih => exact .stay (kept _ directory) trivial (ih target)
  | up directory _ ih => exact .up (kept _ directory) (ih target)
  | down directory named _ _ ih =>
      have onward := ih target
      subst target
      exact .down (kept _ directory) named (by rw [onward.find?_start]; rfl) onward
  | missing => cases target

theorem isDirectory_of_kept {before after : Host} {path : HostPath}
    (directory : before.isDirectory path = true) (kept : KeepsDirectories before after)
    (origin : after.workingDirectory = before.workingDirectory) : after.isDirectory path = true := by
  have found := isDirectory_iff.mp directory
  rw [isDirectory, decide_eq_true_eq, entryAt?_eq_some_iff]
  have located := locate_of_lookup found
  have place : after.site path = before.site path := by rw [site, site, start, start, origin]
  rw [place]
  have resolves := resolves_of_locate located
  rw [lookup, locate]
  rw [locate] at located
  split at located
  · contradiction
  · rename_i clear
    split at located
    · contradiction
    · rename_i nonempty
      rw [if_neg clear, if_neg nonempty, start, origin]
      rw [start] at resolves
      rw [walk_of_resolves (resolves.persists kept)]

theorem Addressed.of_kept {before after : Host} {mountPoint : HostPath} {segments : List String}
    (addressed : Addressed before mountPoint segments) (kept : KeepsDirectories before after)
    (origin : after.workingDirectory = before.workingDirectory) : Addressed after mountPoint segments :=
  ⟨isDirectory_of_kept addressed.directory kept origin, addressed.names, addressed.unterminated⟩

end Host

theorem EntryAdded.keepsDirectories {location : Location} {entry : Entry} {before after : Host}
    (added : EntryAdded location entry before after) (absent : before.tree.find? location = none) :
    before.KeepsDirectories after := by
  intro place stands
  rw [added.entries, if_neg]
  · exact stands
  · rintro rfl
    rw [absent] at stands
    cases stands

end GuestStorage
