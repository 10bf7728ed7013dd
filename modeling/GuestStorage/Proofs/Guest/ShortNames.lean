import GuestStorage.Guest.ShortName
import Mathlib.Data.List.TakeWhile

namespace GuestStorage

namespace ShortName

/-- A name is divided at the last point that is not its final byte, or else not at all. -/
inductive Divided : Bytes → Bytes → Bytes → Prop
  | pointed {stem rest : Bytes} (followed : rest ≠ []) (last : point ∉ rest.dropLast) :
      Divided (stem ++ point :: rest) stem rest
  | whole {name : Bytes} (pointless : point ∉ name.dropLast) : Divided name name []

variable {name stem rest : Bytes}

theorem exists_last_point {front : Bytes} (member : point ∈ front) :
    ∃ before after, front = before ++ point :: after ∧ point ∉ after := by
  -- The first point from behind is the last one.
  obtain ⟨after, before, reversed, clear⟩ := List.eq_append_cons_of_mem (List.mem_reverse.mpr member)
  refine ⟨before.reverse, after.reverse, ?_, List.mem_reverse.not.mpr clear⟩
  rw [List.reverse_eq_iff.mp reversed, List.reverse_append, List.reverse_cons, List.append_assoc,
    List.singleton_append]

theorem exists_divided (name : Bytes) : ∃ stem rest, Divided name stem rest := by
  by_cases pointed : point ∈ name.dropLast
  · have nonempty : name ≠ [] := by
      rintro rfl
      exact List.not_mem_nil pointed
    obtain ⟨before, after, front, clear⟩ := exists_last_point pointed
    have parts : name = before ++ point :: (after ++ [name.getLast nonempty]) := by
      calc name = name.dropLast ++ [name.getLast nonempty] := (List.dropLast_concat_getLast nonempty).symm
        _ = before ++ point :: (after ++ [name.getLast nonempty]) := by
          rw [front, List.append_assoc, List.cons_append]
    rw [parts]
    refine ⟨before, _, .pointed (List.append_ne_nil_of_right_ne_nil _ (List.cons_ne_nil _ _)) ?_⟩
    rwa [List.dropLast_concat]
  · exact ⟨name, [], .whole pointed⟩

theorem split_of_divided (divided : Divided name stem rest) : split name = (stem, rest) := by
  cases divided with
  | @pointed stem rest followed last =>
      have front : (stem ++ point :: rest).dropLast = stem ++ point :: rest.dropLast := by
        rw [List.dropLast_append_of_ne_nil (List.cons_ne_nil _ _), List.dropLast_cons_of_ne_nil followed]
      have found : (stem ++ point :: rest).dropLast.reverse.dropWhile (· ≠ point) = point :: stem.reverse := by
        rw [front, List.reverse_append, List.reverse_cons, List.append_assoc, List.dropWhile_append_of_pos]
        · simp
        · intro letter later
          exact decide_eq_true fun same => last (same ▸ List.mem_reverse.mp later)
      rw [split, found]
      simp
  | whole pointless =>
      have none : name.dropLast.reverse.dropWhile (· ≠ point) = [] := by
        rw [List.dropWhile_eq_nil_iff]
        intro letter member
        exact decide_eq_true fun same => pointless (same ▸ List.mem_reverse.mp member)
      rw [split, none]

theorem split_eq_iff : split name = (stem, rest) ↔ Divided name stem rest := by
  refine ⟨fun splits => ?_, split_of_divided⟩
  obtain ⟨stem, rest, divided⟩ := exists_divided name
  rw [split_of_divided divided] at splits
  cases splits
  exact divided

def Small (letter : UInt8) : Prop := 0x61 ≤ letter ∧ letter ≤ 0x7A

def Proper (letter : UInt8) : Prop := letter ∉ forbidden ∧ ¬ Small letter

instance : DecidablePred Small := fun _ => inferInstanceAs (Decidable (_ ∧ _))

instance : DecidablePred Proper := fun _ => inferInstanceAs (Decidable (_ ∧ _))

variable {letter : UInt8}

theorem small_iff : Small letter ↔ 97 ≤ letter.toNat ∧ letter.toNat ≤ 122 := by
  rw [Small, UInt8.le_iff_toNat_le, UInt8.le_iff_toNat_le]
  rfl

theorem upper_of_not_small (capital : ¬ Small letter) : upper letter = letter := if_neg capital

theorem toNat_upper (small : Small letter) : (upper letter).toNat = letter.toNat - 32 := by
  have shift : upper letter = letter - 32 := if_pos small
  have large : (32 : UInt8) ≤ letter := by
    rw [UInt8.le_iff_toNat_le]
    exact Nat.le_trans (by decide) (small_iff.mp small).1
  rw [shift, UInt8.toNat_sub_of_le _ _ large]
  rfl

theorem not_small_upper (letter : UInt8) : ¬ Small (upper letter) := by
  by_cases small : Small letter
  · have range := small_iff.mp small
    rw [small_iff, toNat_upper small]
    omega
  · rwa [upper_of_not_small small]

@[simp] theorem upper_mem_forbidden_iff : upper letter ∈ forbidden ↔ letter ∈ forbidden := by
  by_cases small : Small letter
  · have range := small_iff.mp small
    simp only [forbidden, List.mem_cons, List.not_mem_nil, or_false, ← UInt8.toNat_inj, toNat_upper small,
      UInt8.reduceToNat]
    omega
  · rw [upper_of_not_small small]

@[simp] theorem proper_upper_iff : Proper (upper letter) ↔ letter ∉ forbidden := by
  rw [Proper, upper_mem_forbidden_iff, and_iff_left (not_small_upper letter)]

@[simp] theorem upper_eq_space_iff : upper letter = space ↔ letter = space := by
  by_cases small : Small letter
  · have range := small_iff.mp small
    simp only [space, ← UInt8.toNat_inj, toNat_upper small, UInt8.reduceToNat]
    omega
  · rw [upper_of_not_small small]

def Padded (kind : UInt8 → Prop) (field : Bytes) : Prop :=
  ∃ letters spaces, field = letters ++ List.replicate spaces space ∧ ∀ letter ∈ letters, kind letter

def WellFormed (width : Nat) (field : Bytes) : Prop := field.length = width ∧ Padded Proper field

section Padded

variable {kind : UInt8 → Prop} {field letters : Bytes} {width : Nat}

theorem padded_of_forall (all : ∀ letter ∈ field, kind letter) : Padded kind field :=
  ⟨field, 0, (List.append_nil _).symm, all⟩

theorem padded_iff [DecidablePred kind] :
    Padded kind field ↔ ∀ letter ∈ field.dropWhile (kind ·), letter = space := by
  constructor
  · rintro ⟨letters, spaces, rfl, all⟩ letter member
    rw [List.dropWhile_append_of_pos fun letter among => decide_eq_true (all letter among)] at member
    exact List.eq_of_mem_replicate ((List.dropWhile_sublist _).subset member)
  · intro spaces
    refine ⟨field.takeWhile (kind ·), (field.dropWhile (kind ·)).length, ?_, fun letter member => ?_⟩
    · rw [← List.eq_replicate_iff.mpr ⟨rfl, spaces⟩, List.takeWhile_append_dropWhile]
    · exact of_decide_eq_true (List.mem_takeWhile_imp (p := (kind ·)) member)

instance [DecidablePred kind] : Decidable (Padded kind field) :=
  decidable_of_iff ((field.dropWhile (kind ·)).all (· = space)) <| by
    rw [padded_iff, List.all_eq_true]
    simp only [decide_eq_true_eq]

instance : Decidable (WellFormed width field) := inferInstanceAs (Decidable (_ ∧ _))

@[simp] theorem padded_append_spaces_iff (count : Nat) :
    Padded kind (field ++ List.replicate count space) ↔ Padded kind field := by
  constructor
  · rintro ⟨letters, spaces, same, all⟩
    rcases List.append_eq_append_iff.mp same with ⟨more, longer, -⟩ | ⟨more, shorter, behind⟩
    · exact padded_of_forall fun letter member => all letter (longer ▸ List.mem_append_left more member)
    · obtain ⟨-, blank, -⟩ := List.append_eq_replicate_iff.mp behind.symm
      exact ⟨letters, more.length, by rw [shorter, ← blank], all⟩
  · rintro ⟨letters, spaces, rfl, all⟩
    exact ⟨letters, spaces + count, by rw [List.append_assoc, List.replicate_append_replicate], all⟩

@[simp] theorem padded_map_upper_iff : Padded Proper (field.map upper) ↔ Padded (· ∉ forbidden) field := by
  have proper : (fun letter => decide (Proper letter)) ∘ upper = fun letter => decide (letter ∉ forbidden) :=
    funext fun letter => decide_eq_decide.mpr proper_upper_iff
  rw [padded_iff, padded_iff, List.dropWhile_map, proper]
  simp only [List.forall_mem_map, upper_eq_space_iff]

theorem pad_of_length (full : letters.length = width) : pad width letters = letters := by
  rw [pad, List.rightpad, full, Nat.sub_self, List.replicate_zero, List.append_nil]

theorem wellFormed_pad_iff (fits : letters.length ≤ width) :
    WellFormed width (pad width letters) ↔ Padded Proper letters := by
  have full : (pad width letters).length = width := by
    rw [pad, List.length_rightpad, Nat.max_eq_left fits]
  rw [WellFormed, and_iff_right full, pad, List.rightpad, padded_append_spaces_iff]

end Padded

def shown (stem : Bytes) : Bytes := (stem.filter (· ∉ forbidden)).map upper

theorem proper_of_mem_shown {letter : UInt8} (member : letter ∈ shown stem) : Proper letter := by
  obtain ⟨original, kept, rfl⟩ := List.mem_map.mp member
  exact proper_upper_iff.mpr (of_decide_eq_true (List.mem_filter.mp kept).2)

theorem length_shorten_le (letters : Bytes) : (shorten letters).length ≤ 8 := by
  rw [shorten]
  split
  · assumption
  · rw [List.length_append, List.length_take]
    exact Nat.add_le_add_right (Nat.min_le_left 6 _) 2

theorem proper_of_mem_shorten {letters : Bytes} {letter : UInt8} (all : ∀ letter ∈ letters, Proper letter)
    (member : letter ∈ shorten letters) : Proper letter := by
  rw [shorten] at member
  split at member
  · exact all letter member
  · rcases List.mem_append.mp member with front | mark
    · exact all letter (List.mem_of_mem_take front)
    · exact List.forall_mem_cons.mpr ⟨by decide, List.forall_mem_singleton.mpr (by decide)⟩ letter mark

theorem ofName_of_divided (divided : Divided name stem rest) :
    ofName name = ⟨pad 8 (shorten (shown stem)), pad 3 ((rest.take 3).map upper)⟩ := by
  have kept : (stem.filter fun letter => !forbidden.contains letter) = stem.filter (· ∉ forbidden) :=
    List.filter_congr fun letter _ => by simp
  rw [ofName, split_of_divided divided, shown, ← kept]

structure Shows (stem rest : Bytes) (short : ShortName) : Prop where
  wellFormed : WellFormed 8 short.stem
  whole : (shown stem).length ≤ 8 →
    short.stem = shown stem ++ List.replicate (8 - (shown stem).length) space
  cut : 8 < (shown stem).length → short.stem = (shown stem).take 6 ++ [0x7E, 0x31]
  extension : short.extension = (rest.take 3).map upper ++ List.replicate (3 - rest.length) space
  capital : ∀ letter ∈ short.extension, ¬ Small letter
  extension_iff : WellFormed 3 short.extension ↔ Padded (· ∉ forbidden) (rest.take 3)

theorem wellFormed_shortened (stem : Bytes) : WellFormed 8 (pad 8 (shorten (shown stem))) := by
  refine (wellFormed_pad_iff (length_shorten_le _)).mpr (padded_of_forall fun letter => ?_)
  exact proper_of_mem_shorten fun letter => proper_of_mem_shown

theorem pad_shorten_of_lt (long : 8 < (shown stem).length) :
    pad 8 (shorten (shown stem)) = (shown stem).take 6 ++ [0x7E, 0x31] := by
  have full : ((shown stem).take 6 ++ [0x7E, 0x31]).length = 8 := by
    rw [List.length_append, List.length_take, Nat.min_eq_left (by omega)]
    rfl
  rw [shorten, if_neg (Nat.not_le_of_lt long), pad_of_length full]

theorem pad_copied (rest : Bytes) :
    pad 3 ((rest.take 3).map upper) = (rest.take 3).map upper ++ List.replicate (3 - rest.length) space := by
  rw [pad, List.rightpad, List.length_map, List.length_take]
  congr 2
  omega

theorem not_small_of_mem_pad {width : Nat} {letters : Bytes} {letter : UInt8}
    (member : letter ∈ pad width (letters.map upper)) : ¬ Small letter := by
  rw [pad, List.rightpad, List.mem_append] at member
  rcases member with copied | blank
  · obtain ⟨original, -, rfl⟩ := List.mem_map.mp copied
    exact not_small_upper original
  · rw [List.eq_of_mem_replicate blank]
    decide

theorem shows_of_divided (divided : Divided name stem rest) : Shows stem rest (ofName name) := by
  have fits : ((rest.take 3).map upper).length ≤ 3 := by
    rw [List.length_map, List.length_take]
    exact Nat.min_le_left 3 _
  rw [ofName_of_divided divided]
  exact {
    wellFormed := wellFormed_shortened stem
    whole := fun short => by rw [shorten, if_pos short, pad, List.rightpad]
    cut := pad_shorten_of_lt
    extension := pad_copied rest
    capital := fun _ => not_small_of_mem_pad
    extension_iff := (wellFormed_pad_iff fits).trans padded_map_upper_iff }

/-- Every name has just one pair of parts. The first field of its short name is well formed and has the letters of
the first part, all of them or six and the mark of a cut. The extension copies three bytes of the second part, so
that it is well formed if and only if these have nothing that a short name cannot hold but spaces at their end. -/
theorem ofName_shows (name : Bytes) :
    ∃ stem rest, (∀ parts : Bytes × Bytes, Divided name parts.1 parts.2 ↔ parts = (stem, rest)) ∧
      Shows stem rest (ofName name) := by
  obtain ⟨stem, rest, divided⟩ := exists_divided name
  refine ⟨stem, rest, fun parts => ?_, shows_of_divided divided⟩
  rw [← split_eq_iff, split_of_divided divided]
  exact eq_comm

theorem extension_keeps_semicolon : ¬ WellFormed 3 (ofName [0x61, 0x2E, 0x62, 0x3B, 0x63]).extension := by
  decide

end ShortName

end GuestStorage
