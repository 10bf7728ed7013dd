import GuestStorage.Host.Tree

namespace GuestStorage.Tree

@[simp] theorem find?_nil (tree : Tree) : tree.find? [] = some .directory := if_pos rfl

theorem ne_nil_of_find? {tree : Tree} {location : Location} {entry : Option Entry}
    (found : tree.find? location = entry) (other : entry ≠ some .directory) : location ≠ [] := by
  rintro rfl
  exact other (found.symm.trans tree.find?_nil)

theorem find?_of_ne {tree : Tree} {location : Location} (nonempty : location ≠ []) :
    tree.find? location = tree.entries.lookup location := if_neg nonempty

theorem find?_insert {tree : Tree} {location : Location} {entry : Entry}
    (admitted : tree.admits location entry) (place : Location) :
    (tree.insert location entry).find? place =
      if place = location then some entry else tree.find? place := by
  have nonempty : location ≠ [] := by
    simp only [admits, Bool.and_eq_true] at admitted
    exact of_decide_eq_true admitted.1.1.1
  by_cases root : place = []
  · simp [root, nonempty.symm]
  · rw [find?_of_ne root, find?_of_ne root, insert, dif_pos admitted, List.lookup_cons]
    by_cases same : place = location
    · rw [if_pos same, beq_iff_eq.mpr same]
    · rw [if_neg same, beq_eq_false_iff_ne.mpr same]

theorem lookup_filter_keys {Key Value : Type} [BEq Key] [LawfulBEq Key] (keep : Key → Bool)
    (entries : List (Key × Value)) (place : Key) :
    (entries.filter fun entry => keep entry.1).lookup place =
      if keep place then entries.lookup place else none := by
  induction entries with
  | nil => simp
  | cons entry rest ih =>
    rw [List.filter_cons, List.lookup_cons]
    by_cases same : place = entry.1
    · rw [beq_iff_eq.mpr same, ← same]
      by_cases kept : keep place
      · rw [if_pos kept, if_pos kept, List.lookup_cons, beq_iff_eq.mpr same]
      · rw [if_neg kept, if_neg kept, ih, if_neg kept]
    · rw [beq_eq_false_iff_ne.mpr same]
      split
      · rw [List.lookup_cons, beq_eq_false_iff_ne.mpr same, ih]
      · exact ih

theorem find?_remove (tree : Tree) (location place : Location) (nonempty : place ≠ []) :
    (tree.remove location).find? place =
      if location <+: place then none else tree.find? place := by
  rw [find?_of_ne nonempty, find?_of_ne nonempty, remove,
    lookup_filter_keys fun place => !location.isPrefixOf place]
  by_cases below : location <+: place
  · rw [if_pos below, List.isPrefixOf_iff_prefix.mpr below]
    rfl
  · rw [if_neg below, if_pos]
    rw [Bool.not_eq_true', ← Bool.not_eq_true, List.isPrefixOf_iff_prefix]
    exact below

theorem lookup_map_keys {change : Location → Location} {entries : List (Location × Entry)}
    {place former : Location}
    (unchanged : ∀ entry ∈ entries, change entry.1 = place ↔ entry.1 = former) :
    (entries.map fun entry => (change entry.1, entry.2)).lookup place = entries.lookup former := by
  induction entries with
  | nil => rfl
  | cons entry rest ih =>
    have same := unchanged entry List.mem_cons_self
    rw [List.map_cons, List.lookup_cons, List.lookup_cons,
      ih fun other member => unchanged other (List.mem_cons_of_mem _ member)]
    by_cases hit : former = entry.1
    · rw [beq_iff_eq.mpr hit, beq_iff_eq.mpr (same.mpr hit.symm).symm]
    · rw [beq_eq_false_iff_ne.mpr hit,
        beq_eq_false_iff_ne.mpr fun moved => hit (same.mp moved.symm).symm]

theorem lookup_map_keys_eq_none {change : Location → Location} {entries : List (Location × Entry)}
    {place : Location} (missed : ∀ entry ∈ entries, change entry.1 ≠ place) :
    (entries.map fun entry => (change entry.1, entry.2)).lookup place = none := by
  rw [List.lookup_eq_none_iff]
  intro entry member
  obtain ⟨former, stood, rfl⟩ := List.mem_map.mp member
  exact bne_iff_ne.mpr (missed former stood).symm

theorem find?_move {tree : Tree} {source target : Location} (allowed : tree.movable source target)
    {place : Location} (nonempty : place ≠ []) :
    (tree.move source target).find? place =
      if target <+: place then tree.find? (source ++ place.drop target.length)
      else if source <+: place then none else tree.find? place := by
  have free := allowed
  simp only [movable, Bool.and_eq_true] at free
  have sourceNonempty := of_decide_eq_true free.1.1.1.1
  have free := List.all_eq_true.mp free.1.2
  simp only [Bool.not_eq_true', ← Bool.not_eq_true, List.isPrefixOf_iff_prefix] at free
  rw [find?_of_ne nonempty, move, dif_pos allowed]
  by_cases inTarget : target <+: place
  · obtain ⟨rest, rfl⟩ := inTarget
    rw [if_pos (List.prefix_append ..), List.drop_left, find?_of_ne (by simp [sourceNonempty])]
    refine lookup_map_keys fun entry member => ⟨fun moved => ?_, fun same => ?_⟩
    · by_cases inSource : source <+: entry.1
      · obtain ⟨other, whole⟩ := inSource
        rw [← whole, relocate_inside] at moved
        rw [← whole, List.append_cancel_left moved]
      · rw [relocate_outside target inSource] at moved
        exact absurd ⟨rest, moved.symm⟩ (free entry member)
    · rw [same, relocate_inside]
  · rw [if_neg inTarget]
    have outside (location : Location) (inSource : source <+: location) :
        relocate source target location ≠ place := by
      obtain ⟨rest, rfl⟩ := inSource
      rw [relocate_inside]
      exact fun same => inTarget ⟨rest, same⟩
    by_cases inSource : source <+: place
    · rw [if_pos inSource]
      refine lookup_map_keys_eq_none fun entry member => ?_
      by_cases below : source <+: entry.1
      · exact outside entry.1 below
      · rw [relocate_outside target below]
        exact fun same => below (same ▸ inSource)
    · rw [if_neg inSource, find?_of_ne nonempty]
      refine lookup_map_keys fun entry member => ?_
      by_cases below : source <+: entry.1
      · refine ⟨fun same => absurd same (outside entry.1 below), fun same => ?_⟩
        exact absurd (same ▸ below) inSource
      · rw [relocate_outside target below]

end GuestStorage.Tree
