import GuestStorage.Archive.Basic
import GuestStorage.Proofs.Host.Media
import GuestStorage.Proofs.Host.Placement

namespace GuestStorage

def Contents.zeros (size : Nat) : Contents :=
  if size = 0 then .empty else Contents.empty.write (size - 1) [0]

namespace Host

theorem createFile_missing {host : Host} {path : HostPath} {parent : Location} {name : String}
    (named : path.parts.getLast? ≠ some "") (located : host.locate path = .ok (.missing parent name)) :
    host.createFile path = .ok (host.addFile (parent ++ [name]), host.files.length) := by
  have nonempty : path.isEmpty = false := by
    rw [locate] at located
    split at located
    · contradiction
    · split at located
      · contradiction
      · simpa using ‹¬ path.isEmpty = true›
  have plain : path.endsInSlash = false := by
    rw [HostPath.endsInSlash, decide_eq_false_iff_not]
    exact named
  simp only [createFile, nonempty, trimmed_of_named named, located, plain, Bool.false_eq_true, if_false]

theorem missing_or_refused {host : Host} {path : HostPath} (named : path.parts.getLast? ≠ some "")
    (free : host.hasEntry path = false) :
    (∃ parent name, host.locate path = .ok (.missing parent name)) ∨
      ∃ cause, host.createFile path = .error cause := by
  cases creates : host.createFile path with
  | error cause => exact .inr ⟨cause, rfl⟩
  | ok made =>
      rw [createFile, trimmed_of_named named] at creates
      split at creates
      · contradiction
      · split at creates
        · contradiction
        · contradiction
        · rename_i located
          rw [hasEntry, entryAt?, lookup, located] at free
          contradiction
        · rename_i located
          exact .inl ⟨_, _, located⟩

@[simp] theorem length_addFile (host : Host) (location : Location) :
    (host.addFile location).files.length = host.files.length + 1 := by
  simp [addFile]

@[simp] theorem contents_addFile (host : Host) (location : Location) :
    (host.addFile location).contents host.files.length = .empty := by
  simp [contents, addFile, List.getD_eq_getElem?_getD]

@[simp] theorem setContents_addFile (host : Host) (location : Location) :
    (host.addFile location).setContents host.files.length .empty = host.addFile location := by
  have stored : host.files.length < (host.addFile location).files.length := by simp
  simpa using setContents_contents stored

/-- A file is made empty first; a size that the host has no position for is found out afterwards. -/
theorem allocate_missing {host : Host} {path : HostPath} {parent : Location} {name : String}
    (named : path.parts.getLast? ≠ some "") (located : host.locate path = .ok (.missing parent name))
    (size : UInt64) :
    host.allocate path size =
      if Medium.limit ≤ size.toNat then (host.addFile (parent ++ [name]), .error .tooLarge)
      else ((host.addFile (parent ++ [name])).setContents host.files.length (.zeros size.toNat),
        .ok ()) := by
  rw [allocate, createFile_missing named located]
  by_cases zero : size = 0
  · subst zero
    rw [if_neg (show ¬ Medium.limit ≤ (0 : UInt64).toNat by decide)]
    simp [Contents.zeros]
  · have positive : size.toNat ≠ 0 := fun none => zero (UInt64.toNat_inj.mp none)
    simp only [if_neg zero, writeAt, List.cons_ne_nil, if_false, List.length_singleton, contents_addFile]
    rw [Nat.sub_add_cancel (Nat.one_le_iff_ne_zero.mpr positive)]
    by_cases large : Medium.limit ≤ size.toNat
    · by_cases far : Medium.limit ≤ size.toNat - 1 <;> simp only [far, large, if_true, if_false]
    · rw [if_neg large, if_neg (by omega), if_neg large, Contents.zeros, if_neg positive]

theorem allocate_refused {host : Host} {path : HostPath} {cause : HostError}
    (refused : host.createFile path = .error cause) (size : UInt64) :
    ∃ code, host.allocate path size = (host, .error code) := by
  simp only [allocate, refused]
  exact ⟨_, rfl⟩

inductive Renamed (host : Host) (former next : Location) : Host → Prop
  | toItself : Renamed host former next host
  | moved {entry : Entry} (stands : host.tree.find? former = some entry)
      (free : host.tree.find? next = none) (apart : ¬ former <+: next) :
      Renamed host former next (host.move former next)
  | replaced {entry old : Entry} (stands : host.tree.find? former = some entry)
      (stood : host.tree.find? next = some old) (distinct : former ≠ next)
      (alike : entry = .directory ↔ old = .directory)
      (empty : old = .directory → ¬ former <+: next ∧ host.tree.children next = []) :
      Renamed host former next ((host.removeAll next).move former next)

theorem replaced_of_replace {host changed : Host} {former next : Location} {entry old : Entry}
    (stands : host.tree.find? former = some entry) (stood : host.tree.find? next = some old)
    (distinct : former ≠ next) (replaces : host.replace former entry next old = .ok changed) :
    Renamed host former next changed := by
  cases entry with
  | directory =>
      cases old with
      | file id => cases replaces
      | directory =>
          simp only [replace] at replaces
          split at replaces
          · contradiction
          · rename_i apart
            split at replaces
            · rename_i empty
              cases replaces
              rw [List.isPrefixOf_iff_prefix] at apart
              exact .replaced stands stood distinct Iff.rfl fun _ => ⟨apart, empty⟩
            · contradiction
  | file id =>
      cases old with
      | directory => cases replaces
      | file other =>
          cases replaces
          exact .replaced stands stood distinct (by simp) nofun

theorem renamed_of_rename {host changed : Host} {source target : HostPath}
    (renames : host.rename source target = .ok changed) :
    Renamed host (host.site source) (host.site target) changed := by
  rw [rename] at renames
  split at renames
  · contradiction
  · split at renames
    · contradiction
    · contradiction
    · rename_i former entry next old found located
      obtain rfl := site_of_lookup found
      obtain rfl : next = host.site target := site_of_locate located
      split at renames
      · cases renames
        exact .toItself
      · rename_i distinct
        split at renames
        · contradiction
        · exact replaced_of_replace (lookup_eq_ok found) (resolves_of_locate located).stands distinct
            renames
    · rename_i former entry parent name found located
      obtain rfl := site_of_lookup found
      have next : parent ++ [name] = host.site target := site_of_locate located
      rw [next] at renames
      split at renames
      · contradiction
      · rename_i apart
        split at renames
        · contradiction
        · cases renames
          rw [not_or, List.isPrefixOf_iff_prefix] at apart
          exact .moved (lookup_eq_ok found) (next ▸ (resolves_of_locate located).free.2) apart.2

theorem Renamed.cases_below {host changed : Host} {site : Location} {former next : List String}
    (renamed : Renamed host (site ++ former) (site ++ next) changed) :
    changed = host ∨ former ≠ [] ∧ next ≠ [] := by
  cases renamed with
  | toItself => exact .inl rfl
  | moved stands free apart =>
      refine .inr ⟨?_, ?_⟩
      · rintro rfl
        exact apart (by simp)
      · rintro rfl
        rw [List.append_nil] at free apart
        by_cases root : former = []
        · exact apart (by simp [root])
        · rw [Tree.find?_above former root stands] at free
          cases free
  | replaced stands stood distinct alike empty =>
      refine .inr ⟨?_, ?_⟩
      · rintro rfl
        rw [List.append_nil] at *
        have inside : next ≠ [] := by
          rintro rfl
          exact distinct (by simp)
        have directory := Tree.find?_above next inside stood
        rw [directory] at stands
        exact (empty (alike.mp (Option.some.inj stands).symm)).1 (List.prefix_append ..)
      · rintro rfl
        rw [List.append_nil] at *
        have inside : former ≠ [] := by
          rintro rfl
          exact distinct (by simp)
        have directory := Tree.find?_above former inside stands
        rw [directory] at stood
        exact Tree.children_ne_nil ⟨former, inside, rfl⟩ stands (empty (Option.some.inj stood).symm).2

end Host

end GuestStorage
