import GuestStorage.Archive.Status
import GuestStorage.Proofs.Host.FileCreation

namespace GuestStorage

def StrictlyBelow (site location : Location) : Prop := ∃ rest, rest ≠ [] ∧ location = site ++ rest

theorem StrictlyBelow.of_prefix {site location place : Location} (below : StrictlyBelow site location)
    (above : location <+: place) : StrictlyBelow site place := by
  obtain ⟨rest, nonempty, rfl⟩ := below
  obtain ⟨more, rfl⟩ := above
  exact ⟨rest ++ more, by simp [nonempty], by rw [List.append_assoc]⟩

namespace Tree

theorem find?_of_mem {tree : Tree} {location : Location} {entry : Entry}
    (member : (location, entry) ∈ tree.entries) : tree.find? location = some entry := by
  rw [find?_of_ne (tree.rooted _ member).1, List.lookup_eq_some_iff]
  obtain ⟨before, after, whole⟩ := List.append_of_mem member
  refine ⟨before, after, whole, fun place earlier => ?_⟩
  have unique := tree.unique
  rw [whole, List.map_append, List.map_cons, List.nodup_append] at unique
  exact bne_iff_ne.mpr fun same => unique.2.2 _ (List.mem_map_of_mem earlier) _ List.mem_cons_self same.symm

theorem find?_dropLast {tree : Tree} {location : Location} {entry : Entry} (nonempty : location ≠ [])
    (stands : tree.find? location = some entry) :
    tree.find? location.dropLast = some .directory := by
  rw [find?_of_ne nonempty] at stands
  rcases (tree.rooted _ (mem_of_lookup stands)).2 with root | directory
  · simp [show location.dropLast = [] from root]
  · exact find?_of_mem directory

theorem find?_above {tree : Tree} {site : Location} (rest : Location) {entry : Entry}
    (nonempty : rest ≠ []) (stands : tree.find? (site ++ rest) = some entry) :
    tree.find? site = some .directory := by
  have parent := find?_dropLast (by simp [nonempty]) stands
  rw [List.dropLast_append_of_ne_nil nonempty] at parent
  by_cases child : rest.dropLast = []
  · rwa [child, List.append_nil] at parent
  · exact find?_above rest.dropLast child parent
termination_by rest.length
decreasing_by
  rw [List.length_dropLast]
  have := List.length_pos_iff.mpr nonempty
  omega

theorem children_ne_nil {tree : Tree} {site location : Location} {entry : Entry}
    (below : StrictlyBelow site location) (stands : tree.find? location = some entry) :
    tree.children site ≠ [] := by
  obtain ⟨rest, nonempty, rfl⟩ := below
  obtain ⟨name, more, rfl⟩ := List.exists_cons_of_ne_nil nonempty
  obtain ⟨child, stood⟩ : ∃ child, tree.find? (site ++ [name]) = some child := by
    rw [List.append_cons] at stands
    by_cases last : more = []
    · exact ⟨entry, by rwa [last, List.append_nil] at stands⟩
    · exact ⟨.directory, find?_above more last stands⟩
  rw [find?_of_ne (by simp)] at stood
  have listed : (name, child) ∈ tree.children site :=
    List.mem_filterMap.mpr ⟨_, mem_of_lookup stood, by simp⟩
  exact List.ne_nil_of_mem listed

theorem file_location_unique {tree : Tree} {left right : Location} {id : Nat}
    (first : tree.find? left = some (.file id)) (second : tree.find? right = some (.file id)) :
    left = right := by
  have stored {location : Location} (found : tree.find? location = some (.file id)) :
      (location, Entry.file id) ∈ tree.entries := by
    rw [find?_of_ne (ne_nil_of_find? found nofun)] at found
    exact mem_of_lookup found
  obtain ⟨before, after, whole⟩ := List.append_of_mem (stored first)
  have parts : fileIds tree.entries = fileIds before ++ id :: fileIds after := by
    rw [whole]
    exact List.filterMap_append
  have distinct := tree.unshared
  rw [parts, List.nodup_append, List.nodup_cons] at distinct
  have counted {entries : List (Location × Entry)} (member : (right, .file id) ∈ entries) :
      id ∈ fileIds entries := List.mem_filterMap.mpr ⟨_, member, rfl⟩
  have elsewhere := stored second
  rw [whole, List.mem_append, List.mem_cons] at elsewhere
  rcases elsewhere with member | same | member
  · exact absurd rfl (distinct.2.2 id (counted member) id List.mem_cons_self)
  · exact (congrArg Prod.fst same).symm
  · exact absurd (counted member) distinct.2.1.1

end Tree

namespace HostPath

/-- A part that leads to an entry of the directory it is looked up in. -/
structure Proper (part : String) : Prop where
  nontrivial : isTrivial part = false
  notUp : part ≠ ".."

theorem Proper.ne_empty {part : String} (proper : Proper part) : part ≠ "" := by
  rintro rfl
  exact absurd proper.nontrivial (by decide)

def follow (place : Location) (part : String) : Location :=
  if isTrivial part then place else if part = ".." then place.dropLast else place ++ [part]

theorem follow_proper {place : Location} {part : String} (proper : Proper part) :
    follow place part = place ++ [part] := by
  simp only [follow, proper.nontrivial, Bool.false_eq_true, if_false, if_neg proper.notUp]

theorem foldl_follow_proper {place : Location} {parts : List String}
    (proper : ∀ part ∈ parts, Proper part) : parts.foldl follow place = place ++ parts := by
  induction parts generalizing place with
  | nil => rw [List.foldl_nil, List.append_nil]
  | cons part rest ih =>
      rw [List.foldl_cons, follow_proper (proper part List.mem_cons_self),
        ih fun other member => proper other (List.mem_cons_of_mem _ member), ← List.append_cons]

theorem foldl_follow_empty {place : Location} {parts : List String} (empty : parts.all (· = "")) :
    parts.foldl follow place = place := by
  induction parts with
  | nil => rfl
  | cons part rest ih =>
      rw [List.all_cons, Bool.and_eq_true, decide_eq_true_eq] at empty
      rw [List.foldl_cons, empty.1]
      exact ih empty.2

@[simp] theorem foldl_follow_stem (path : HostPath) (place : Location) :
    path.stem.foldl follow place = path.parts.foldl follow place := by
  rw [stem]
  split
  · rename_i slash
    obtain ⟨front, whole⟩ := List.getLast?_eq_some_iff.mp slash
    rw [whole, List.dropLast_concat, List.foldl_append]
    rfl
  · rfl

@[simp] theorem parts_child (base : HostPath) (name : String) :
    (base.child name).parts = base.stem ++ [name] := by
  simp [child, join, isAbsolute]

theorem parts_descendant (mountPoint : HostPath) {segments : List String} (nonempty : segments ≠ [])
    (named : ∀ segment ∈ segments, segment ≠ "") :
    (mountPoint.descendant segments).parts = mountPoint.stem ++ segments := by
  induction segments generalizing mountPoint with
  | nil => contradiction
  | cons segment rest ih =>
      by_cases last : rest = []
      · rw [last, descendant, List.foldl_cons, List.foldl_nil, parts_child]
      · have inner := ih (mountPoint.child segment) last
          fun other member => named other (List.mem_cons_of_mem _ member)
        have stem : (mountPoint.child segment).stem = mountPoint.stem ++ [segment] := by
          rw [HostPath.stem, parts_child, List.getLast?_concat, if_neg]
          simpa using named segment List.mem_cons_self
        rw [stem, ← List.append_cons] at inner
        exact inner

theorem getLast?_descendant (mountPoint : HostPath) {segments : List String} (nonempty : segments ≠ [])
    (named : ∀ segment ∈ segments, segment ≠ "") :
    (mountPoint.descendant segments).parts.getLast? = segments.getLast? := by
  rw [parts_descendant mountPoint nonempty named, List.getLast?_append,
    List.getLast?_eq_some_getLast nonempty]
  rfl

theorem named_of_proper (mountPoint : HostPath) {segments : List String} (nonempty : segments ≠ [])
    (proper : ∀ segment ∈ segments, Proper segment) :
    (mountPoint.descendant segments).parts.getLast? ≠ some "" := by
  rw [getLast?_descendant mountPoint nonempty fun segment member => (proper segment member).ne_empty]
  intro last
  exact (proper "" (List.mem_of_getLast? last)).ne_empty rfl

theorem endsInName_of_proper (mountPoint : HostPath) {segments : List String} (nonempty : segments ≠ [])
    (proper : ∀ segment ∈ segments, Proper segment) :
    (mountPoint.descendant segments).endsInName = true := by
  rw [endsInName, Host.trimmed_of_named (named_of_proper mountPoint nonempty proper),
    getLast?_descendant mountPoint nonempty fun segment member => (proper segment member).ne_empty,
    List.getLast?_eq_some_getLast nonempty, Option.any_some]
  have last := proper _ (List.getLast_mem nonempty)
  simp [last.nontrivial, last.notUp]

theorem isAbsolute_descendant (mountPoint : HostPath) {segments : List String}
    (named : ∀ segment ∈ segments, segment ≠ "") :
    (mountPoint.descendant segments).isAbsolute = mountPoint.isAbsolute := by
  by_cases nonempty : segments = []
  · rw [nonempty]
    rfl
  · obtain ⟨segment, rest, rfl⟩ := List.exists_cons_of_ne_nil nonempty
    have first := named segment List.mem_cons_self
    rw [isAbsolute, parts_descendant mountPoint nonempty named, isAbsolute, stem]
    -- A path of one part is relative, and so is what it is joined with.
    match mountPoint.parts with
    | [] => simp [first]
    | [part] => by_cases empty : part = "" <;> simp [empty, first]
    | part :: next :: more => split <;> simp [← Nat.add_assoc]

end HostPath

def Spot.location : Spot → Location
  | found location _ => location
  | missing parent name => parent ++ [name]

namespace Host

open HostPath

/-- The place that a path means on a host, whether or not anything stands there. -/
def site (host : Host) (path : HostPath) : Location := path.parts.foldl follow (host.start path)

theorem Resolves.location_eq {tree : Tree} {place : Location} {parts : List String} {spot : Spot}
    (resolves : Resolves tree place parts spot) : spot.location = parts.foldl follow place := by
  induction resolves with
  | done => rfl
  | stay _ trivial _ ih => rw [ih, List.foldl_cons, follow, if_pos trivial]
  | up _ _ ih =>
      rw [ih, List.foldl_cons]
      rfl
  | down _ named _ _ ih =>
      rw [ih, List.foldl_cons, follow_proper ⟨named.nontrivial, named.notUp⟩]
  | missing _ named _ last =>
      rw [List.foldl_cons, follow_proper ⟨named.nontrivial, named.notUp⟩, foldl_follow_empty last]
      rfl

theorem resolves_of_locate {host : Host} {path : HostPath} {spot : Spot}
    (located : host.locate path = .ok spot) :
    Resolves host.tree (host.start path) path.parts spot := by
  rw [locate] at located
  split at located
  · contradiction
  · split at located
    · contradiction
    · exact resolves_of_walk located

theorem site_of_locate {host : Host} {path : HostPath} {spot : Spot}
    (located : host.locate path = .ok spot) : spot.location = host.site path :=
  (resolves_of_locate located).location_eq

theorem locate_of_lookup {host : Host} {path : HostPath} {location : Location} {entry : Entry}
    (found : host.lookup path = .ok (location, entry)) :
    host.locate path = .ok (.found location entry) := by
  rw [lookup] at found
  split at found
  · contradiction
  · contradiction
  · cases found
    assumption

theorem site_of_lookup {host : Host} {path : HostPath} {location : Location} {entry : Entry}
    (found : host.lookup path = .ok (location, entry)) : location = host.site path :=
  site_of_locate (locate_of_lookup found)

theorem site_descendant (host : Host) (mountPoint : HostPath) {segments : List String}
    (proper : ∀ segment ∈ segments, Proper segment) :
    host.site (mountPoint.descendant segments) = host.site mountPoint ++ segments := by
  have named (segment : String) (member : segment ∈ segments) : segment ≠ "" :=
    (proper segment member).ne_empty
  have origin : host.start (mountPoint.descendant segments) = host.start mountPoint := by
    rw [start, isAbsolute_descendant mountPoint named, start]
  by_cases empty : segments = []
  · rw [empty, List.append_nil]
    rfl
  · rw [site, origin, parts_descendant mountPoint empty named, List.foldl_append,
      foldl_follow_stem, foldl_follow_proper proper, site]

end Host

namespace GuestPath

theorem proper_of_isSegment {segment : List Char} (legal : isSegment segment) :
    HostPath.Proper (String.ofList segment) := by
  have apart (text : String) (different : segment ≠ text.toList) : String.ofList segment ≠ text :=
    fun same => different (by rw [← same, String.toList_ofList])
  simp only [isSegment, Bool.and_eq_true, decide_eq_true_eq] at legal
  refine ⟨?_, apart ".." legal.2⟩
  rw [HostPath.isTrivial, decide_eq_false (apart "" legal.1.1), decide_eq_false (apart "." legal.1.2)]
  rfl

theorem proper_of_parseText {text : List Char} {segments : List (List Char)}
    (parsed : parseText text = some segments) :
    ∀ segment ∈ segments, HostPath.Proper (String.ofList segment) := by
  rw [parseText.eq_def] at parsed
  split at parsed
  · split at parsed
    · contradiction
    · rw [splitSegments] at parsed
      split at parsed
      · cases parsed
        exact fun _ member => nomatch member
      · dsimp only at parsed
        split at parsed
        · rename_i legal
          cases parsed
          exact fun segment member => proper_of_isSegment (List.all_eq_true.mp legal segment member)
        · contradiction
  · contradiction

theorem proper_of_segments? {path : GuestPath} {segments : List String}
    (parsed : path.segments? = some segments) :
    ∀ segment ∈ segments, HostPath.Proper segment := by
  have written {text : List Char}
      (mapped : (parseText text).map (·.map String.ofList) = some segments) :
      ∀ segment ∈ segments, HostPath.Proper segment := by
    obtain ⟨pieces, read, rfl⟩ := Option.map_eq_some_iff.mp mapped
    intro segment member
    obtain ⟨piece, stood, rfl⟩ := List.mem_map.mp member
    exact proper_of_parseText read piece stood
  cases path with
  | char text => exact written parsed
  | wide units => exact written parsed
  | invalid => cases parsed
  | empty => cases parsed
  | binary data => cases parsed

end GuestPath

end GuestStorage
