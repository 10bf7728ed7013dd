import GuestStorage.Host.Change
import GuestStorage.Host.Tree.View

namespace GuestStorage

namespace Tree

theorem find?_ne_none_of_below {tree : Tree} {location : Location} (rest : Location)
    {entry : Entry} (stands : (location ++ rest, entry) ∈ tree.entries) :
    tree.find? location ≠ none := by
  by_cases root : location = []
  · simp [root]
  · by_cases here : rest = []
    · rw [here, List.append_nil] at stands
      rw [find?_of_ne root]
      intro missing
      have absent := List.lookup_eq_none_iff.mp missing (location, entry) stands
      simp at absent
    · have parent := (tree.rooted _ stands).2
      rw [List.dropLast_append_of_ne_nil here] at parent
      rcases parent with nowhere | directory
      · exact absurd (List.append_eq_nil_iff.mp nowhere).1 root
      · exact find?_ne_none_of_below rest.dropLast directory
termination_by rest.length
decreasing_by
  rw [List.length_dropLast]
  have := List.length_pos_iff.mpr here
  omega

theorem isFree_of_find?_eq_none {tree : Tree} {location : Location}
    (missing : tree.find? location = none) : tree.isFree location := by
  apply List.all_eq_true.mpr
  intro place member
  rw [Bool.not_eq_true', ← Bool.not_eq_true, List.isPrefixOf_iff_prefix]
  rintro ⟨rest, whole⟩
  exact find?_ne_none_of_below rest (show (location ++ rest, place.2) ∈ _ from whole ▸ member) missing

/-- Nothing stands at the location, and something can be put there. -/
structure Vacant (tree : Tree) (location : Location) : Prop where
  parent : tree.find? location.dropLast = some .directory
  absent : tree.find? location = none

theorem admits_of_vacant {tree : Tree} {location : Location} {entry : Entry} (vacant : tree.Vacant location)
    (fresh : ∀ id, entry = .file id → id ∉ fileIds tree.entries) : tree.admits location entry := by
  have nonempty : location ≠ [] := ne_nil_of_find? vacant.absent nofun
  simp only [admits, Bool.and_eq_true]
  refine ⟨⟨⟨by simpa using nonempty, isFree_of_find?_eq_none vacant.absent⟩, ?_⟩, ?_⟩
  · exact decide_eq_true vacant.parent
  · cases entry with
    | directory => rfl
    | file id => simpa [Entry.fileId?] using fresh id rfl

theorem mem_fileIds_of_find? {tree : Tree} {location : Location} {id : Nat}
    (found : tree.find? location = some (.file id)) : id ∈ fileIds tree.entries := by
  have nonempty : location ≠ [] := ne_nil_of_find? found nofun
  rw [find?_of_ne nonempty] at found
  exact List.mem_filterMap.mpr ⟨_, mem_of_lookup found, rfl⟩

end Tree

namespace Host

/-- A part that names an entry of the directory it is looked up in. -/
structure Names (part : String) : Prop where
  nontrivial : HostPath.isTrivial part = false
  notUp : part ≠ ".."
  short : part.utf8ByteSize ≤ maxNameLength

inductive Resolves (tree : Tree) : Location → List String → Spot → Prop
  | done {place : Location} {entry : Entry} (stands : tree.find? place = some entry) :
      Resolves tree place [] (.found place entry)
  | stay {place : Location} {part : String} {rest : List String} {spot : Spot}
      (directory : tree.find? place = some .directory) (trivial : HostPath.isTrivial part = true)
      (onward : Resolves tree place rest spot) : Resolves tree place (part :: rest) spot
  | up {place : Location} {rest : List String} {spot : Spot}
      (directory : tree.find? place = some .directory)
      (onward : Resolves tree place.dropLast rest spot) : Resolves tree place (".." :: rest) spot
  | down {place : Location} {part : String} {rest : List String} {spot : Spot}
      (directory : tree.find? place = some .directory) (named : Names part)
      (present : (tree.find? (place ++ [part])).isSome)
      (onward : Resolves tree (place ++ [part]) rest spot) :
      Resolves tree place (part :: rest) spot
  | missing {place : Location} {part : String} {rest : List String}
      (directory : tree.find? place = some .directory) (named : Names part)
      (absent : tree.find? (place ++ [part]) = none) (last : rest.all (· = "")) :
      Resolves tree place (part :: rest) (.missing place part)

theorem resolves_of_walk {tree : Tree} {place : Location} {parts : List String} {spot : Spot}
    (walked : walk tree place parts = .ok spot) : Resolves tree place parts spot := by
  induction parts generalizing place with
  | nil =>
      rw [walk] at walked
      split at walked
      · contradiction
      · cases walked
        exact .done ‹_›
  | cons part rest ih =>
      rw [walk] at walked
      split at walked
      · contradiction
      · contradiction
      · rename_i directory
        by_cases trivial : HostPath.isTrivial part = true
        · rw [if_pos trivial] at walked
          exact .stay directory trivial (ih walked)
        · rw [if_neg trivial] at walked
          by_cases up : part = ".."
          · rw [if_pos up] at walked
            exact up ▸ .up directory (ih walked)
          · rw [if_neg up] at walked
            split at walked
            · contradiction
            · rename_i short
              have named : Names part := ⟨by simpa using trivial, up, Nat.not_lt.mp short⟩
              split at walked
              · exact .down directory named ‹_› (ih walked)
              · rename_i absent
                split at walked
                · cases walked
                  exact .missing directory named (by simpa using absent) ‹_›
                · contradiction

theorem walk_of_resolves {tree : Tree} {place : Location} {parts : List String} {spot : Spot}
    (resolves : Resolves tree place parts spot) : walk tree place parts = .ok spot := by
  induction resolves with
  | done stands => simp [walk, stands]
  | stay directory trivial _ ih => simp [walk, directory, trivial, ih]
  | up directory _ ih =>
      have nontrivial : HostPath.isTrivial ".." = false := by decide
      simp [walk, directory, nontrivial, ih]
  | down directory named present _ ih =>
      simp [walk, directory, named.nontrivial, named.notUp, Nat.not_lt.mpr named.short, present, ih]
  | missing directory named absent last =>
      simp only [walk, directory, named.nontrivial, named.notUp, Nat.not_lt.mpr named.short, absent,
        last]
      simp

theorem Resolves.stands {tree : Tree} {place location : Location} {entry : Entry}
    {parts : List String} (resolves : Resolves tree place parts (.found location entry)) :
    tree.find? location = some entry := by
  generalize target : Spot.found location entry = spot at resolves
  induction resolves with
  | done stands =>
      cases target
      exact stands
  | stay _ _ _ ih | up _ _ ih | down _ _ _ _ ih => exact ih target
  | missing => cases target

theorem Resolves.free {tree : Tree} {place parent : Location} {name : String}
    {parts : List String} (resolves : Resolves tree place parts (.missing parent name)) :
    tree.find? parent = some .directory ∧ tree.find? (parent ++ [name]) = none := by
  generalize target : Spot.missing parent name = spot at resolves
  induction resolves with
  | done => cases target
  | stay _ _ _ ih | up _ _ ih | down _ _ _ _ ih => exact ih target
  | missing directory _ absent =>
      cases target
      exact ⟨directory, absent⟩

theorem getLast?_tail_ne {part : String} {rest : List String}
    (named : (part :: rest).getLast? ≠ some "") : rest.getLast? ≠ some "" := by
  intro ends
  apply named
  rw [List.getLast?_cons, ends]
  rfl

theorem eq_nil_of_all_empty {part : String} {rest : List String}
    (named : (part :: rest).getLast? ≠ some "") (last : rest.all (· = "")) : rest = [] := by
  by_cases more : rest = []
  · exact more
  · have ends := List.getLast?_eq_some_getLast more
    have blank := List.all_eq_true.mp last _ (List.getLast_mem more)
    rw [of_decide_eq_true blank] at ends
    exact absurd ends (getLast?_tail_ne named)

theorem Resolves.insert {tree : Tree} {place parent : Location} {name : String} {entry : Entry}
    {parts : List String} (resolves : Resolves tree place parts (.missing parent name))
    (admitted : tree.admits (parent ++ [name]) entry) (named : parts.getLast? ≠ some "") :
    Resolves (tree.insert (parent ++ [name]) entry) place parts
      (.found (parent ++ [name]) entry) := by
  have absent := resolves.free.2
  -- Whatever the path passes stands before, so it is not the entry that is added.
  have kept (location : Location) (old : Entry) (stood : tree.find? location = some old) :
      (tree.insert (parent ++ [name]) entry).find? location = some old := by
    rw [Tree.find?_insert admitted, if_neg]
    · exact stood
    · rintro rfl
      rw [absent] at stood
      cases stood
  generalize target : Spot.missing parent name = spot at resolves
  induction resolves with
  | done => cases target
  | stay directory trivial _ ih =>
      exact .stay (kept _ _ directory) trivial (ih (getLast?_tail_ne named) target)
  | up directory _ ih =>
      exact .up (kept _ _ directory) (ih (getLast?_tail_ne named) target)
  | down directory part present _ ih =>
      obtain ⟨old, stood⟩ := Option.isSome_iff_exists.mp present
      refine .down (kept _ _ directory) part ?_ (ih (getLast?_tail_ne named) target)
      rw [kept _ _ stood]
      rfl
  | @missing place part rest directory legal _ last =>
      cases target
      have stands : (tree.insert (parent ++ [name]) entry).find? (parent ++ [name]) =
          some entry := by
        rw [Tree.find?_insert admitted, if_pos rfl]
      obtain rfl := eq_nil_of_all_empty named last
      exact .down (kept _ _ directory) legal (by rw [stands]; rfl) (.done stands)

theorem lookup_eq_ok {host : Host} {path : HostPath} {location : Location} {entry : Entry}
    (found : host.lookup path = .ok (location, entry)) :
    host.tree.find? location = some entry := by
  rw [lookup] at found
  split at found
  · contradiction
  · contradiction
  · rename_i located
    cases found
    rw [locate] at located
    split at located
    · contradiction
    · split at located
      · contradiction
      · exact (resolves_of_walk located).stands

theorem lt_of_lookup_file {host : Host} {path : HostPath} {location : Location} {id : Nat}
    (found : host.lookup path = .ok (location, .file id)) : id < host.files.length :=
  host.stored id (Tree.mem_fileIds_of_find? (lookup_eq_ok found))

theorem trimmed_of_named {path : HostPath} (named : path.parts.getLast? ≠ some "") :
    path.trimmed = path := by
  have last : path.parts.reverse.head? ≠ some "" := by rwa [List.head?_reverse]
  have kept : path.parts.reverse.dropWhile (· = "") = path.parts.reverse := by
    cases back : path.parts.reverse with
    | nil => rfl
    | cons part rest =>
        rw [back] at last
        rw [List.dropWhile_cons, if_neg]
        simpa using last
  rw [HostPath.trimmed, kept, List.reverse_reverse]

theorem admits_new {host : Host} {parent : Location} {name : String}
    (directory : host.tree.find? parent = some .directory)
    (absent : host.tree.find? (parent ++ [name]) = none) :
    host.tree.admits (parent ++ [name]) (.file host.files.length) := by
  have vacant : host.tree.Vacant (parent ++ [name]) := ⟨by rwa [List.dropLast_concat], absent⟩
  refine Tree.admits_of_vacant vacant ?_
  rintro id same member
  cases same
  exact Nat.lt_irrefl _ (host.stored _ member)

structure Created (host : Host) (path : HostPath) (created : Host) (id : Nat) : Prop where
  leads : ∃ location, created.lookup path = .ok (location, .file id)
  empty : created.contents id = .empty
  others : ∀ other, other ≠ id → created.contents other = host.contents other
  stored : id < created.files.length
  origin : host.entryAt? path = some (.file id) ∨ id = host.files.length

theorem created_over {host : Host} {path : HostPath} {location : Location} {id : Nat}
    (found : host.lookup path = .ok (location, .file id)) :
    Created host path (host.setContents id .empty) id := by
  have stored := lt_of_lookup_file found
  refine ⟨⟨location, found⟩, ?_, ?_, ?_, .inl ?_⟩
  · simp [contents, setContents, List.getD_eq_getElem?_getD, stored]
  · intro other apart
    simp [contents, setContents, List.getD_eq_getElem?_getD, apart.symm]
  · simpa [setContents] using stored
  · rw [entryAt?, found]
    rfl

theorem created_anew {host : Host} {path : HostPath} {parent : Location} {name : String}
    (named : path.parts.getLast? ≠ some "")
    (located : host.locate path = .ok (.missing parent name)) :
    Created host path (host.addFile (parent ++ [name])) host.files.length := by
  rw [locate] at located
  split at located
  · contradiction
  · rename_i noZero
    split at located
    · contradiction
    · rename_i nonempty
      have resolves := resolves_of_walk located
      have admitted := admits_new resolves.free.1 resolves.free.2
      refine ⟨⟨parent ++ [name], ?_⟩, ?_, ?_, ?_, .inr rfl⟩
      · have leads := walk_of_resolves (resolves.insert admitted named)
        rw [lookup, locate, if_neg noZero, if_neg nonempty]
        simp only [addFile, start] at leads ⊢
        rw [leads]
      · simp [contents, addFile, List.getD_eq_getElem?_getD]
      · intro other apart
        by_cases old : other < host.files.length
        · simp [contents, addFile, List.getD_eq_getElem?_getD, List.getElem?_append_left old]
        · have before : host.files[other]? = none := List.getElem?_eq_none (Nat.le_of_not_lt old)
          have after : (host.files ++ [Contents.empty])[other]? = none := by
            rw [List.getElem?_eq_none_iff, List.length_append, List.length_singleton]
            omega
          simp only [contents, addFile, List.getD_eq_getElem?_getD, before, after]
      · simp [addFile]

theorem createFile_eq_ok {host created : Host} {path : HostPath} {id : Nat}
    (creates : host.createFile path = .ok (created, id)) : Created host path created id := by
  rw [createFile] at creates
  split at creates
  · contradiction
  · split at creates
    · split at creates <;> contradiction
    · contradiction
    · rename_i location found located
      split at creates
      · contradiction
      · rename_i named
        cases creates
        rw [HostPath.endsInSlash, decide_eq_true_eq] at named
        rw [trimmed_of_named named] at located
        exact created_over (by rw [lookup, located])
    · rename_i parent name located
      split at creates
      · contradiction
      · rename_i named
        cases creates
        rw [HostPath.endsInSlash, decide_eq_true_eq] at named
        rw [trimmed_of_named named] at located
        exact created_anew named located

end Host

end GuestStorage
