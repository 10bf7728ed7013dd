import GuestStorage.Proofs.Host.Placement

namespace GuestStorage

namespace Tree

theorem vacant_iff {tree : Tree} {location : Location} : tree.Vacant location ↔
    tree.find? location.dropLast = some .directory ∧ tree.find? location = none :=
  ⟨fun vacant => ⟨vacant.parent, vacant.absent⟩, fun ⟨parent, absent⟩ => ⟨parent, absent⟩⟩

theorem find?_of_blocked {tree : Tree} {place : Location} {rest : List String}
    (blocked : tree.find? place ≠ some .directory) (nonempty : rest ≠ []) :
    tree.find? (place ++ rest) = none := by
  cases found : tree.find? (place ++ rest) with
  | none => rfl
  | some entry => exact absurd (find?_above rest nonempty found) blocked

theorem find?_dropLast_of_blocked {tree : Tree} {place : Location} {rest : List String}
    (blocked : tree.find? place ≠ some .directory) (nonempty : rest ≠ []) :
    tree.find? (place ++ rest).dropLast ≠ some .directory := by
  rw [List.dropLast_append_of_ne_nil nonempty]
  by_cases single : rest.dropLast = []
  · rwa [single, List.append_nil]
  · rw [find?_of_blocked blocked single]
    nofun

theorem isSome_find?_of_append {tree : Tree} {place : Location} {rest : List String} {entry : Entry}
    (stands : tree.find? (place ++ rest) = some entry) : (tree.find? place).isSome := by
  by_cases here : rest = []
  · rw [here, List.append_nil] at stands
    rw [stands]
    rfl
  · rw [find?_above rest here stands]
    rfl

end Tree

namespace Host

open HostPath

section

variable {tree : Tree} {place : Location} {front back : List String}

theorem Resolves.append {between : Location} {entry : Entry} {spot : Spot}
    (first : Resolves tree place front (.found between entry)) (second : Resolves tree between back spot) :
    Resolves tree place (front ++ back) spot := by
  generalize target : Spot.found between entry = middle at first
  induction first with
  | done =>
      cases target
      exact second
  | stay directory trivial _ ih => exact .stay directory trivial (ih target)
  | up directory _ ih => exact .up directory (ih target)
  | down directory named present _ ih => exact .down directory named present (ih target)
  | missing => cases target

theorem Resolves.split {spot : Spot} {location : Location} {entry : Entry}
    (resolves : Resolves tree place (front ++ back) spot) (found : spot = .found location entry) :
    ∃ between middle, Resolves tree place front (.found between middle) ∧
      Resolves tree between back spot := by
  induction front generalizing place with
  | nil =>
      cases resolves with
      | done stands => exact ⟨place, _, .done stands, .done stands⟩
      | stay directory trivial onward => exact ⟨place, _, .done directory, .stay directory trivial onward⟩
      | up directory onward => exact ⟨place, _, .done directory, .up directory onward⟩
      | down directory named present onward =>
          exact ⟨place, _, .done directory, .down directory named present onward⟩
      | missing => cases found
  | cons part rest ih =>
      cases resolves with
      | stay directory trivial onward =>
          obtain ⟨between, middle, first, second⟩ := ih onward
          exact ⟨between, middle, .stay directory trivial first, second⟩
      | up directory onward =>
          obtain ⟨between, middle, first, second⟩ := ih onward
          exact ⟨between, middle, .up directory first, second⟩
      | down directory named present onward =>
          obtain ⟨between, middle, first, second⟩ := ih onward
          exact ⟨between, middle, .down directory named present first, second⟩
      | missing => cases found

theorem resolves_stem {path : HostPath} {location : Location}
    (resolves : Resolves tree place path.parts (.found location .directory)) :
    Resolves tree place path.stem (.found location .directory) := by
  rw [stem]
  split
  · rename_i slash
    obtain ⟨front, whole⟩ := List.getLast?_eq_some_iff.mp slash
    rw [whole] at resolves
    rw [whole, List.dropLast_concat]
    obtain ⟨between, middle, first, second⟩ := resolves.split rfl
    generalize blank : [""] = parts at second
    cases second with
    | done => cases blank
    | stay directory _ onward =>
        cases blank
        cases onward with
        | done =>
            rw [first.stands] at directory
            rwa [Option.some.inj directory] at first
    | up => simp at blank
    | down _ named =>
        cases blank
        exact absurd named.nontrivial (by decide)
  · exact resolves

theorem resolves_down {segments : List String} (names : ∀ segment ∈ segments, Names segment)
    {entry : Entry} (stands : tree.find? (place ++ segments) = some entry) :
    Resolves tree place segments (.found (place ++ segments) entry) := by
  induction segments generalizing place with
  | nil =>
      rw [List.append_nil] at stands ⊢
      exact .done stands
  | cons segment rest ih =>
      have directory := Tree.find?_above (segment :: rest) (List.cons_ne_nil segment rest) stands
      rw [List.append_cons] at stands ⊢
      have onward := ih (fun other member => names other (List.mem_cons_of_mem _ member)) stands
      exact .down directory (names segment List.mem_cons_self) (Tree.isSome_find?_of_append stands) onward

theorem resolves_vacant {segments : List String} (names : ∀ segment ∈ segments, Names segment)
    (directory : tree.find? place = some .directory) (vacant : tree.Vacant (place ++ segments)) :
    ∃ parent name, parent ++ [name] = place ++ segments ∧
      Resolves tree place segments (.missing parent name) := by
  obtain ⟨parent, absent⟩ := vacant
  rcases List.eq_nil_or_concat segments with rfl | ⟨front, last, rfl⟩
  · rw [List.append_nil, directory] at absent
    cases absent
  · rw [List.concat_eq_append] at names parent absent ⊢
    rw [← List.append_assoc, List.dropLast_concat] at parent
    rw [← List.append_assoc] at absent
    have above := resolves_down (fun segment member => names segment (List.mem_append_left _ member)) parent
    have named := names last (List.mem_append_right _ List.mem_cons_self)
    exact ⟨place ++ front, last, List.append_assoc .., above.append (.missing parent named absent rfl)⟩

end

theorem entryAt?_eq_some_iff {host : Host} {path : HostPath} {entry : Entry} :
    host.entryAt? path = some entry ↔ host.lookup path = .ok (host.site path, entry) := by
  rw [entryAt?]
  constructor
  · intro stands
    cases found : host.lookup path with
    | error cause =>
        rw [found] at stands
        cases stands
    | ok place =>
        obtain ⟨location, old⟩ := place
        rw [found] at stands
        cases stands
        rw [site_of_lookup found]
  · intro found
    rw [found]
    rfl

theorem isDirectory_iff {host : Host} {path : HostPath} :
    host.isDirectory path = true ↔ host.lookup path = .ok (host.site path, .directory) := by
  rw [isDirectory, decide_eq_true_iff, entryAt?_eq_some_iff]

theorem hasZero_of_locate {host : Host} {path : HostPath} {spot : Spot}
    (located : host.locate path = .ok spot) : hasZero path = false := by
  rw [locate] at located
  split at located
  · contradiction
  · exact Bool.eq_false_iff.mpr ‹_›

theorem isEmpty_of_locate {host : Host} {path : HostPath} {spot : Spot}
    (located : host.locate path = .ok spot) : path.isEmpty = false := by
  rw [locate] at located
  split at located
  · contradiction
  · split at located
    · contradiction
    · exact Bool.eq_false_iff.mpr ‹_›

theorem locate_of_resolves {host : Host} {path : HostPath} {spot : Spot} (clear : hasZero path = false)
    (written : path.isEmpty = false) (resolves : Resolves host.tree (host.start path) path.parts spot) :
    host.locate path = .ok spot := by
  rw [locate, if_neg (Bool.eq_false_iff.mp clear), if_neg (Bool.eq_false_iff.mp written),
    walk_of_resolves resolves]

theorem hasZero_descendant (mountPoint : HostPath) {segments : List String}
    (proper : ∀ segment ∈ segments, Proper segment) :
    hasZero (mountPoint.descendant segments) =
      (hasZero mountPoint || segments.any (·.toList.contains '\x00')) := by
  by_cases empty : segments = []
  · rw [empty, List.any_nil, Bool.or_false]
    rfl
  · have parts := parts_descendant mountPoint empty fun segment member => (proper segment member).ne_empty
    rw [hasZero, parts, List.any_append, hasZero, stem]
    split
    · -- The part that a slash at the end leaves behind is empty.
      rename_i slash
      obtain ⟨front, whole⟩ := List.getLast?_eq_some_iff.mp slash
      rw [whole, List.dropLast_concat, List.any_append, List.any_cons, List.any_nil]
      simp
    · rfl

theorem isEmpty_descendant {mountPoint : HostPath} {segment : String} {rest : List String}
    (proper : ∀ other ∈ segment :: rest, Proper other) :
    (mountPoint.descendant (segment :: rest)).isEmpty = false := by
  have named (other : String) (member : other ∈ segment :: rest) : other ≠ "" := (proper other member).ne_empty
  have parts := parts_descendant mountPoint (List.cons_ne_nil segment rest) named
  simp only [isEmpty, parts, List.all_append, List.all_cons,
    decide_eq_false (named segment List.mem_cons_self), Bool.false_and, Bool.and_false]

theorem start_descendant (host : Host) (mountPoint : HostPath) {segments : List String}
    (proper : ∀ segment ∈ segments, Proper segment) :
    host.start (mountPoint.descendant segments) = host.start mountPoint := by
  rw [start, isAbsolute_descendant mountPoint fun segment member => (proper segment member).ne_empty, start]

/-- Names that a host can look up one by one, below a directory. -/
structure Addressed (host : Host) (mountPoint : HostPath) (segments : List String) : Prop where
  directory : host.isDirectory mountPoint = true
  names : ∀ segment ∈ segments, Names segment
  unterminated : ∀ segment ∈ segments, '\x00' ∉ segment.toList

namespace Addressed

variable {host : Host} {mountPoint : HostPath} {segments : List String}

theorem lookup_mountPoint (addressed : Addressed host mountPoint segments) :
    host.lookup mountPoint = .ok (host.site mountPoint, .directory) :=
  isDirectory_iff.mp addressed.directory

theorem find?_mountPoint (addressed : Addressed host mountPoint segments) :
    host.tree.find? (host.site mountPoint) = some .directory :=
  lookup_eq_ok addressed.lookup_mountPoint

theorem proper (addressed : Addressed host mountPoint segments) :
    ∀ segment ∈ segments, Proper segment := by
  intro segment member
  have named := addressed.names segment member
  exact ⟨named.nontrivial, named.notUp⟩

theorem site_eq (addressed : Addressed host mountPoint segments) :
    host.site (mountPoint.descendant segments) = host.site mountPoint ++ segments :=
  site_descendant host mountPoint addressed.proper

theorem head {segment : String} {rest : List String}
    (addressed : Addressed host mountPoint (segment :: rest)) : Addressed host mountPoint [segment] where
  directory := addressed.directory
  names other member := addressed.names other (List.mem_singleton.mp member ▸ List.mem_cons_self)
  unterminated other member :=
    addressed.unterminated other (List.mem_singleton.mp member ▸ List.mem_cons_self)

theorem tail {segment : String} {rest : List String}
    (addressed : Addressed host mountPoint (segment :: rest))
    (directory : host.isDirectory (mountPoint.child segment) = true) :
    Addressed host (mountPoint.child segment) rest where
  directory := directory
  names other member := addressed.names other (List.mem_cons_of_mem _ member)
  unterminated other member := addressed.unterminated other (List.mem_cons_of_mem _ member)

theorem hasZero_descendant (addressed : Addressed host mountPoint segments) :
    hasZero (mountPoint.descendant segments) = false := by
  rw [Host.hasZero_descendant mountPoint addressed.proper,
    hasZero_of_locate (locate_of_lookup addressed.lookup_mountPoint), Bool.false_or, List.any_eq_false]
  intro segment member
  simpa using addressed.unterminated segment member

theorem locate_descendant (addressed : Addressed host mountPoint segments) {spot : Spot}
    (resolves : Resolves host.tree (host.site mountPoint) segments spot) :
    host.locate (mountPoint.descendant segments) = .ok spot := by
  have located := locate_of_lookup addressed.lookup_mountPoint
  have clear := addressed.hasZero_descendant
  cases segments with
  | nil =>
      cases resolves with
      | done stands =>
          rw [addressed.find?_mountPoint] at stands
          rwa [← Option.some.inj stands]
  | cons segment rest =>
      have proper := addressed.proper
      refine locate_of_resolves clear (isEmpty_descendant proper) ?_
      rw [start_descendant host mountPoint proper, parts_descendant mountPoint (List.cons_ne_nil segment rest)
        fun other member => (proper other member).ne_empty]
      exact (resolves_stem (resolves_of_locate located)).append resolves

theorem lookup_descendant (addressed : Addressed host mountPoint segments) {entry : Entry}
    (stands : host.tree.find? (host.site mountPoint ++ segments) = some entry) :
    host.lookup (mountPoint.descendant segments) = .ok (host.site mountPoint ++ segments, entry) := by
  rw [lookup, addressed.locate_descendant (resolves_down addressed.names stands)]

theorem ne_nil_of_vacant (addressed : Addressed host mountPoint segments)
    (vacant : host.tree.Vacant (host.site mountPoint ++ segments)) : segments ≠ [] := by
  rintro rfl
  have absent := vacant.absent
  rw [List.append_nil, addressed.find?_mountPoint] at absent
  cases absent

theorem locate_vacant (addressed : Addressed host mountPoint segments)
    (vacant : host.tree.Vacant (host.site mountPoint ++ segments)) :
    ∃ parent name, parent ++ [name] = host.site mountPoint ++ segments ∧
      host.locate (mountPoint.descendant segments) = .ok (.missing parent name) := by
  obtain ⟨parent, name, whole, resolves⟩ :=
    resolves_vacant addressed.names addressed.find?_mountPoint vacant
  exact ⟨parent, name, whole, addressed.locate_descendant resolves⟩

theorem entryAt?_descendant (addressed : Addressed host mountPoint segments) :
    host.entryAt? (mountPoint.descendant segments) =
      host.tree.find? (host.site mountPoint ++ segments) := by
  cases stands : host.tree.find? (host.site mountPoint ++ segments) with
  | some entry => rw [entryAt?_eq_some_iff, addressed.lookup_descendant stands, addressed.site_eq]
  | none =>
      cases found : host.entryAt? (mountPoint.descendant segments) with
      | none => rfl
      | some entry =>
          have there := lookup_eq_ok (entryAt?_eq_some_iff.mp found)
          rw [addressed.site_eq, stands] at there
          cases there

end Addressed

/-- What a status says of the location that was classified. -/
inductive Classified (tree : Tree) (location : Location) : HostStatus → Prop
  | directory (stands : tree.find? location = some .directory) : Classified tree location .directoryFound
  | file {id : Nat} (stands : tree.find? location = some (.file id)) : Classified tree location .fileFound
  | vacant (vacant : tree.Vacant location) : Classified tree location .notFound
  | blocked {status : HostStatus} (cut : status = .pathNotFound ∨ status = .fileInPath)
      (absent : tree.find? location = none) (orphan : tree.find? location.dropLast ≠ some .directory) :
      Classified tree location status

namespace Classified

variable {tree : Tree} {location : Location} {status : HostStatus}

theorem directoryFound_iff (classified : Classified tree location status) :
    status = .directoryFound ↔ tree.find? location = some .directory := by
  cases classified with
  | directory stands => simp [stands]
  | file stands => simp [stands]
  | vacant vacant => simp [vacant.absent]
  | blocked cut absent => rcases cut with rfl | rfl <;> simp [absent]

theorem fileFound_iff (classified : Classified tree location status) :
    status = .fileFound ↔ ∃ id, tree.find? location = some (.file id) := by
  cases classified with
  | directory stands => simp [stands]
  | file stands => simp [stands]
  | vacant vacant => simp [vacant.absent]
  | blocked cut absent => rcases cut with rfl | rfl <;> simp [absent]

theorem notFound_iff (classified : Classified tree location status) :
    status = .notFound ↔ tree.Vacant location := by
  cases classified with
  | directory stands => simp [Tree.vacant_iff, stands]
  | file stands => simp [Tree.vacant_iff, stands]
  | vacant vacant => simp [vacant]
  | blocked cut absent orphan => rcases cut with rfl | rfl <;> simp [Tree.vacant_iff, orphan]

end Classified

namespace Addressed

variable {host : Host} {mountPoint : HostPath} {segments : List String}

theorem classified_leaf {last : String} (addressed : Addressed host mountPoint [last]) :
    Classified host.tree (host.site mountPoint ++ [last]) (host.leafStatus (mountPoint.child last)) := by
  have shown : host.entryAt? (mountPoint.child last) = host.tree.find? (host.site mountPoint ++ [last]) :=
    addressed.entryAt?_descendant
  rw [leafStatus, shown]
  cases stands : host.tree.find? (host.site mountPoint ++ [last]) with
  | none =>
      refine .vacant ⟨?_, stands⟩
      rw [List.dropLast_concat]
      exact addressed.find?_mountPoint
  | some entry =>
      cases entry with
      | directory => exact .directory stands
      | file id => exact .file stands

theorem classified_of_blocked {status : HostStatus} {rest : List String} {segment : String}
    (cut : status = .pathNotFound ∨ status = .fileInPath) (nonempty : rest ≠ [])
    (blocked : host.tree.find? (host.site mountPoint ++ [segment]) ≠ some .directory) :
    Classified host.tree (host.site mountPoint ++ segment :: rest) status := by
  rw [List.append_cons]
  exact .blocked cut (Tree.find?_of_blocked blocked nonempty)
    (Tree.find?_dropLast_of_blocked blocked nonempty)

theorem statusBelow_classified (addressed : Addressed host mountPoint segments) :
    Classified host.tree (host.site mountPoint ++ segments) (host.statusBelow mountPoint segments) := by
  induction segments generalizing mountPoint with
  | nil =>
      rw [List.append_nil]
      exact .directory addressed.find?_mountPoint
  | cons segment rest ih =>
      -- Unless it is the last one, a name has to be a directory, or nothing stands behind it.
      cases rest with
      | nil => exact classified_leaf addressed
      | cons next more =>
          have nonempty := List.cons_ne_nil next more
          have shown : host.entryAt? (mountPoint.child segment) =
              host.tree.find? (host.site mountPoint ++ [segment]) := addressed.head.entryAt?_descendant
          simp only [statusBelow]
          cases stands : host.entryAt? (mountPoint.child segment) with
          | none =>
              rw [stands] at shown
              exact classified_of_blocked (.inl rfl) nonempty (by simp [← shown])
          | some entry =>
              rw [stands] at shown
              cases entry with
              | file id => exact classified_of_blocked (.inr rfl) nonempty (by simp [← shown])
              | directory =>
                  have below := ih (addressed.tail (decide_eq_true stands))
                  have site : host.site (mountPoint.child segment) = host.site mountPoint ++ [segment] :=
                    addressed.head.site_eq
                  rwa [site, ← List.append_cons] at below

theorem status_classified (addressed : Addressed host mountPoint segments) :
    Classified host.tree (host.site mountPoint ++ segments) (host.status mountPoint segments) := by
  rw [status, if_pos addressed.directory]
  exact addressed.statusBelow_classified

end Addressed

end Host

end GuestStorage
