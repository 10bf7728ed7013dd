import GuestStorage.Bytes

/-!
# What a file holds

A file is as long as its size says; what was never written is zero. It is kept as a size and the writes
that are still visible, so that a large empty file costs nothing. `byteAt` is the view that every
operation is described by: `byteAt_write` and `byteAt_resize` say what a change does to every position.
-/

namespace GuestStorage

structure Edit where
  offset : Nat
  data : Array UInt8
  deriving DecidableEq, Repr

namespace Edit

def stop (edit : Edit) : Nat := edit.offset + edit.data.size

def get? (edit : Edit) (position : Nat) : Option UInt8 :=
  if edit.offset ≤ position then edit.data[position - edit.offset]? else none

/-- What remains of an edit in a file of `size` bytes; the offset moves only where nothing remains. -/
def clip (size : Nat) (edit : Edit) : Edit :=
  ⟨min edit.offset size, edit.data.take (size - edit.offset)⟩

theorem stop_clip_le (size : Nat) (edit : Edit) : (edit.clip size).stop ≤ size := by
  simp only [clip, stop, Array.take_eq_extract, Array.size_extract]
  omega

theorem get?_of_lt {edit : Edit} {position : Nat} (before : position < edit.offset) :
    edit.get? position = none := if_neg (by omega)

theorem get?_of_le {edit : Edit} {position : Nat} (inside : edit.offset ≤ position) :
    edit.get? position = edit.data[position - edit.offset]? := if_pos inside

theorem get?_of_stop_le {edit : Edit} {position : Nat} (past : edit.stop ≤ position) :
    edit.get? position = none := by
  rw [stop] at past
  rw [get?_of_le (by omega), Array.getElem?_eq_none_iff]
  omega

theorem get?_clip (size : Nat) (edit : Edit) (position : Nat) :
    (edit.clip size).get? position = if position < size then edit.get? position else none := by
  split
  · rename_i inside
    by_cases before : position < edit.offset
    · rw [get?_of_lt before, get?_of_lt (show position < min edit.offset size by omega)]
    · have start : (edit.clip size).offset = edit.offset := Nat.min_eq_left (by omega)
      rw [get?_of_le (by omega), get?_of_le (by omega), start, clip, Array.take_eq_extract,
        Array.getElem?_extract, Nat.zero_add]
      by_cases stored : position - edit.offset < edit.data.size
      · rw [if_pos (by omega)]
      · rw [if_neg (by omega), Array.getElem?_eq_none (by omega)]
  · exact get?_of_stop_le (Nat.le_trans (edit.stop_clip_le size) (by omega))

end Edit

/-- The newest edit comes first. -/
structure Contents where
  size : Nat
  edits : List Edit
  fits : ∀ edit ∈ edits, edit.stop ≤ size
  deriving DecidableEq, Repr

namespace Contents

def empty : Contents := ⟨0, [], by simp⟩

def ofBytes (data : Bytes) : Contents :=
  ⟨data.length, [⟨0, data.toArray⟩], by simp [Edit.stop]⟩

def byteAt (contents : Contents) (position : Nat) : UInt8 :=
  (contents.edits.findSome? (·.get? position)).getD 0

def read (contents : Contents) (offset length : Nat) : Bytes :=
  (List.range' offset (min length (contents.size - offset))).map contents.byteAt

def toBytes (contents : Contents) : Bytes := contents.read 0 contents.size

def write (contents : Contents) (offset : Nat) (data : Bytes) : Contents :=
  if data = [] then contents
  else
    { size := max contents.size (offset + data.length)
      edits := ⟨offset, data.toArray⟩ :: contents.edits
      fits := by
        intro edit member
        rcases List.mem_cons.mp member with rfl | member
        · simp only [Edit.stop, List.size_toArray]
          omega
        · have := contents.fits edit member
          omega }

def resize (contents : Contents) (size : Nat) : Contents :=
  { size
    edits := contents.edits.map (·.clip size)
    fits := by
      intro edit member
      obtain ⟨source, -, rfl⟩ := List.mem_map.mp member
      exact source.stop_clip_le size }

theorem byteAt_eq_zero {contents : Contents} {position : Nat} (past : contents.size ≤ position) :
    contents.byteAt position = 0 := by
  have uncovered : contents.edits.findSome? (·.get? position) = none := by
    rw [List.findSome?_eq_none_iff]
    intro edit member
    exact Edit.get?_of_stop_le (Nat.le_trans (contents.fits edit member) past)
  rw [byteAt, uncovered, Option.getD_none]

theorem byteAt_write (contents : Contents) (offset : Nat) (data : Bytes) (position : Nat) :
    (contents.write offset data).byteAt position =
      if offset ≤ position ∧ position < offset + data.length then data.getD (position - offset) 0
      else contents.byteAt position := by
  by_cases empty : data = []
  · rw [write, if_pos empty, if_neg]
    rw [empty, List.length_nil]
    omega
  · rw [write, if_neg empty, byteAt, List.findSome?_cons]
    by_cases inside : offset ≤ position ∧ position < offset + data.length
    · have bound : position - offset < data.length := by omega
      rw [if_pos inside, Edit.get?_of_le inside.1, List.getElem?_toArray,
        List.getElem?_eq_getElem bound, List.getD_eq_getElem?_getD, List.getElem?_eq_getElem bound]
    · have uncovered : Edit.get? ⟨offset, data.toArray⟩ position = none := by
        by_cases before : position < offset
        · exact Edit.get?_of_lt before
        · refine Edit.get?_of_stop_le ?_
          simp only [Edit.stop, List.size_toArray]
          omega
      rw [if_neg inside, uncovered]
      rfl

@[simp] theorem byteAt_resize (contents : Contents) (size position : Nat) :
    (contents.resize size).byteAt position =
      if position < size then contents.byteAt position else 0 := by
  simp only [byteAt, resize, List.findSome?_map, Function.comp_def, Edit.get?_clip]
  split
  · rfl
  · rw [List.findSome?_eq_none_iff.mpr fun _ _ => rfl]
    rfl

@[simp] theorem length_read (contents : Contents) (offset length : Nat) :
    (contents.read offset length).length = min length (contents.size - offset) := by
  simp [read]

@[simp] theorem size_write (contents : Contents) (offset : Nat) (data : Bytes) (written : data ≠ []) :
    (contents.write offset data).size = max contents.size (offset + data.length) := by
  rw [write, if_neg written]

end Contents

end GuestStorage
