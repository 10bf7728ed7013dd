/-!
# The tree of names

A location is the list of names from the root. The tree says of finitely many locations what stands there;
the root is always a directory. Every entry stands in a directory, and no two entries share a file.
`find?` is the view that the operations are described by. An operation whose condition does not hold
leaves the tree as it is.
-/

namespace GuestStorage

abbrev Location := List String

inductive Entry
  | directory
  | file (id : Nat)
  deriving DecidableEq, Repr

namespace Entry

def fileId? : Entry → Option Nat
  | directory => none
  | file id => some id

def isDirectory (entry : Entry) : Bool := entry = directory

end Entry

/-- The names that stand in some directory of the list. -/
def Rooted (entries : List (Location × Entry)) : Prop :=
  ∀ place ∈ entries, place.1 ≠ [] ∧
    (place.1.dropLast = [] ∨ (place.1.dropLast, .directory) ∈ entries)

def fileIds (entries : List (Location × Entry)) : List Nat := entries.filterMap (·.2.fileId?)

structure Tree where
  entries : List (Location × Entry)
  unique : (entries.map (·.1)).Nodup
  rooted : Rooted entries
  unshared : (fileIds entries).Nodup

namespace Tree

def empty : Tree := ⟨[], .nil, by simp [Rooted], .nil⟩

def find? (tree : Tree) (location : Location) : Option Entry :=
  if location = [] then some .directory else tree.entries.lookup location

def isDirectory (tree : Tree) (location : Location) : Bool :=
  tree.find? location = some .directory

def isFree (tree : Tree) (location : Location) : Bool :=
  tree.entries.all fun place => !location.isPrefixOf place.1

def children (tree : Tree) (location : Location) : List (String × Entry) :=
  tree.entries.filterMap fun place =>
    if place.1.dropLast = location then place.1.getLast?.map (·, place.2) else none

def below (tree : Tree) (location : Location) : List (Location × Entry) :=
  tree.entries.filter fun place => location.isPrefixOf place.1

theorem mem_of_lookup {entries : List (Location × Entry)} {location : Location} {entry : Entry}
    (found : entries.lookup location = some entry) : (location, entry) ∈ entries := by
  obtain ⟨before, after, rfl, -⟩ := List.lookup_eq_some_iff.mp found
  simp

theorem directory_cases {tree : Tree} {location : Location} (found : tree.isDirectory location) :
    location = [] ∨ (location, .directory) ∈ tree.entries := by
  have found := of_decide_eq_true found
  rw [find?] at found
  split at found
  · exact .inl ‹_›
  · exact .inr (mem_of_lookup found)

/-! ## Adding -/

def admits (tree : Tree) (location : Location) (entry : Entry) : Bool :=
  location ≠ [] && tree.isFree location && tree.isDirectory location.dropLast &&
    entry.fileId?.all fun id => !(fileIds tree.entries).contains id

def insert (tree : Tree) (location : Location) (entry : Entry) : Tree :=
  if admitted : tree.admits location entry then
    { entries := (location, entry) :: tree.entries
      unique := by
        simp only [admits, Bool.and_eq_true] at admitted
        have free := List.all_eq_true.mp admitted.1.1.2
        rw [List.map_cons, List.nodup_cons]
        refine ⟨fun member => ?_, tree.unique⟩
        obtain ⟨place, member, same⟩ := List.mem_map.mp member
        have apart := free place member
        rw [same, Bool.not_eq_true', ← Bool.not_eq_true, List.isPrefixOf_iff_prefix] at apart
        exact apart (List.prefix_refl location)
      rooted := by
        simp only [admits, Bool.and_eq_true] at admitted
        intro place member
        rcases List.mem_cons.mp member with rfl | member
        · refine ⟨by simpa using admitted.1.1.1, ?_⟩
          rcases directory_cases admitted.1.2 with root | directory
          · exact .inl root
          · exact .inr (List.mem_cons_of_mem _ directory)
        · exact ⟨(tree.rooted place member).1,
            (tree.rooted place member).2.imp_right (List.mem_cons_of_mem _)⟩
      unshared := by
        simp only [admits, Bool.and_eq_true] at admitted
        cases entry with
        | directory => exact tree.unshared
        | file id =>
          have fresh := admitted.2
          simp only [Entry.fileId?, Option.all_some, Bool.not_eq_true', List.contains_eq_mem,
            decide_eq_false_iff_not] at fresh
          exact List.nodup_cons.mpr ⟨fresh, tree.unshared⟩ }
  else tree

theorem fileIds_insert {tree : Tree} {location : Location} {entry : Entry} {id : Nat}
    (member : id ∈ fileIds (tree.insert location entry).entries) :
    entry.fileId? = some id ∨ id ∈ fileIds tree.entries := by
  rw [insert] at member
  split at member
  · obtain ⟨place, member, stands⟩ := List.mem_filterMap.mp member
    rcases List.mem_cons.mp member with rfl | member
    · exact .inl stands
    · exact .inr (List.mem_filterMap.mpr ⟨place, member, stands⟩)
  · exact .inr member

/-! ## Removing -/

def remove (tree : Tree) (location : Location) : Tree where
  entries := tree.entries.filter fun place => !location.isPrefixOf place.1
  unique := tree.unique.sublist ((List.filter_sublist).map _)
  rooted := by
    intro place member
    obtain ⟨member, kept⟩ := List.mem_filter.mp member
    refine ⟨(tree.rooted place member).1, (tree.rooted place member).2.imp_right fun parent => ?_⟩
    refine List.mem_filter.mpr ⟨parent, ?_⟩
    simp only [Bool.not_eq_true', ← Bool.not_eq_true, List.isPrefixOf_iff_prefix] at kept ⊢
    exact fun above => kept (above.trans (List.dropLast_prefix _))
  unshared := tree.unshared.sublist ((List.filter_sublist).filterMap _)

theorem fileIds_remove {tree : Tree} {location : Location} {id : Nat}
    (member : id ∈ fileIds (tree.remove location).entries) : id ∈ fileIds tree.entries :=
  ((List.filter_sublist).filterMap _).subset member

/-! ## Moving -/

def relocate (source target location : Location) : Location :=
  if source.isPrefixOf location then target ++ location.drop source.length else location

def movable (tree : Tree) (source target : Location) : Bool :=
  source ≠ [] && target ≠ [] && !source.isPrefixOf target && tree.isFree target &&
    tree.isDirectory target.dropLast

@[simp] theorem relocate_inside {source : Location} (target rest : Location) :
    relocate source target (source ++ rest) = target ++ rest := by
  simp [relocate]

theorem relocate_outside {source location : Location} (target : Location)
    (outside : ¬ source <+: location) : relocate source target location = location := by
  simp [relocate, outside]

theorem relocate_injective {source target left right : Location} (freeLeft : ¬ target <+: left)
    (freeRight : ¬ target <+: right)
    (same : relocate source target left = relocate source target right) : left = right := by
  by_cases insideLeft : source <+: left <;> by_cases insideRight : source <+: right
  · obtain ⟨restLeft, rfl⟩ := insideLeft
    obtain ⟨restRight, rfl⟩ := insideRight
    rw [relocate_inside, relocate_inside] at same
    rw [List.append_cancel_left same]
  · obtain ⟨rest, rfl⟩ := insideLeft
    rw [relocate_inside, relocate_outside target insideRight] at same
    exact absurd ⟨rest, same⟩ freeRight
  · obtain ⟨rest, rfl⟩ := insideRight
    rw [relocate_inside, relocate_outside target insideLeft] at same
    exact absurd ⟨rest, same.symm⟩ freeLeft
  · rwa [relocate_outside target insideLeft, relocate_outside target insideRight] at same

def move (tree : Tree) (source target : Location) : Tree :=
  if allowed : tree.movable source target then
    { entries := tree.entries.map fun place => (relocate source target place.1, place.2)
      unique := by
        simp only [movable, Bool.and_eq_true] at allowed
        have free := List.all_eq_true.mp allowed.1.2
        simp only [Bool.not_eq_true', ← Bool.not_eq_true, List.isPrefixOf_iff_prefix] at free
        rw [List.map_map, List.Nodup, List.pairwise_map]
        refine (List.pairwise_map.mp tree.unique).imp_of_mem fun leftMember rightMember distinct same => ?_
        exact distinct (relocate_injective (free _ leftMember) (free _ rightMember) same)
      rooted := by
        simp only [movable, Bool.and_eq_true] at allowed
        obtain ⟨⟨⟨⟨sourceNonempty, targetNonempty⟩, apart⟩, _⟩, parentDirectory⟩ := allowed
        have sourceNonempty := of_decide_eq_true sourceNonempty
        have targetNonempty := of_decide_eq_true targetNonempty
        rw [Bool.not_eq_true', ← Bool.not_eq_true, List.isPrefixOf_iff_prefix] at apart
        intro place member
        obtain ⟨former, stood, rfl⟩ := List.mem_map.mp member
        obtain ⟨nonempty, parent⟩ := tree.rooted former stood
        by_cases inside : source <+: former.1
        · obtain ⟨rest, whole⟩ := inside
          simp only [← whole, relocate_inside]
          refine ⟨by simp [targetNonempty], ?_⟩
          by_cases atSource : rest = []
          · rw [atSource, List.append_nil]
            rcases directory_cases parentDirectory with root | directory
            · exact .inl root
            · refine .inr (List.mem_map.mpr ⟨_, directory, ?_⟩)
              rw [relocate_outside]
              exact fun above => apart (above.trans (List.dropLast_prefix _))
          · rw [List.dropLast_append_of_ne_nil atSource]
            rw [← whole, List.dropLast_append_of_ne_nil atSource] at parent
            rcases parent with root | directory
            · exact absurd (List.append_eq_nil_iff.mp root).1 sourceNonempty
            · exact .inr (List.mem_map.mpr ⟨_, directory, by rw [relocate_inside]⟩)
        · rw [relocate_outside target inside]
          refine ⟨nonempty, parent.imp_right fun directory => ?_⟩
          refine List.mem_map.mpr ⟨_, directory, ?_⟩
          rw [relocate_outside]
          exact fun above => inside (above.trans (List.dropLast_prefix _))
      unshared := by simpa [fileIds, List.filterMap_map, Function.comp_def] using tree.unshared }
  else tree

@[simp] theorem fileIds_move (tree : Tree) (source target : Location) :
    fileIds (tree.move source target).entries = fileIds tree.entries := by
  rw [move]
  split
  · rw [fileIds, List.filterMap_map]
    rfl
  · rfl

end Tree

end GuestStorage
