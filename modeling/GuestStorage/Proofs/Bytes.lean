import GuestStorage.Bytes

namespace GuestStorage.Bytes

@[simp] theorem toNatLE_ofNatLE (width value : Nat) :
    toNatLE (ofNatLE width value) = value % Nat.pow 256 width := by
  induction width generalizing value with
  | zero => simp [ofNatLE, toNatLE, Nat.mod_one]
  | succ width ih =>
    have low : (UInt8.ofNat value).toNat = value % 256 := by simp
    have power : Nat.pow 256 (width + 1) = 256 * Nat.pow 256 width := Nat.mul_comm ..
    rw [ofNatLE, toNatLE, ih, low, power, Nat.mod_mul]

@[simp] theorem length_slice (data : Bytes) (offset length : Nat) :
    (slice data offset length).length = min length (data.length - offset) := by
  simp [slice]

theorem slice_append (front field back : Bytes) :
    slice (front ++ field ++ back) front.length field.length = field := by
  rw [slice, List.append_assoc, List.drop_left, List.take_left]

theorem slice_slice (data : Bytes) (start : Nat) {count offset length : Nat}
    (inside : offset + length ≤ count) :
    slice (slice data start count) offset length = slice data (start + offset) length := by
  rw [slice, slice, slice, List.drop_take, List.take_take, List.drop_drop,
    Nat.min_eq_left (Nat.le_sub_of_add_le' inside)]

theorem slice_append_left {front : Bytes} (back : Bytes) {offset length : Nat}
    (inside : offset + length ≤ front.length) :
    slice (front ++ back) offset length = slice front offset length := by
  rw [slice, slice, List.drop_append_of_le_length (by omega), List.take_append_of_le_length]
  rw [List.length_drop]
  omega

theorem slice_flatMap {α : Type} {width : Nat} {write : α → Bytes}
    (constant : ∀ record, (write record).length = width) {records : List α} {index : Nat}
    (inside : index < records.length) :
    slice (records.flatMap write) (width * index) width = write records[index] := by
  induction records generalizing index with
  | nil => exact absurd inside (Nat.not_lt_zero index)
  | cons record rest ih =>
      rw [List.flatMap_cons]
      cases index with
      | zero =>
          have first : 0 + width ≤ (write record).length :=
            Nat.le_of_eq (by rw [constant, Nat.zero_add])
          rw [Nat.mul_zero, slice_append_left _ first, slice, List.drop_zero, ← constant record,
            List.take_length, List.getElem_cons_zero]
      | succ index =>
          rw [List.getElem_cons_succ, ← ih (Nat.lt_of_succ_lt_succ inside), slice, slice, Nat.mul_succ,
            Nat.add_comm, ← List.drop_drop, ← constant record, List.drop_left]

theorem word32_append (front back : Bytes) (value : Nat) :
    word32 (front ++ ofNatLE 4 value ++ back) front.length = .ofNat value := by
  have field := slice_append front (ofNatLE 4 value) back
  rw [length_ofNatLE] at field
  apply UInt32.toNat_inj.mp
  rw [word32, field]
  simp

theorem fit_of_length {width : Nat} {data : Bytes} (exact : data.length = width) :
    fit width data = data := by
  rw [fit, exact, Nat.sub_self, List.replicate_zero, List.append_nil, ← exact, List.take_length]

theorem take_fit {count width : Nat} {data : Bytes} (inside : count ≤ data.length)
    (short : count ≤ width) : (fit width data).take count = data.take count := by
  rw [fit, List.take_append_of_le_length, List.take_take, Nat.min_eq_left short]
  rw [List.length_take]
  omega

theorem untilZero_fit {width : Nat} {data : Bytes} (short : data.length ≤ width)
    (unterminated : 0 ∉ data) : untilZero (fit width data) = data := by
  have kept (byte : UInt8) (member : byte ∈ data) : decide (byte ≠ 0) = true :=
    decide_eq_true fun zero => unterminated (zero ▸ member)
  rw [untilZero, fit, List.take_of_length_le short, List.takeWhile_append_of_pos kept,
    List.takeWhile_replicate]
  simp

/-- What is written takes the place of what stood there; a gap before it is filled with zeros. -/
def overwrite (array : Bytes) (offset : Nat) (data : Bytes) : Bytes :=
  if data = [] then array else fit offset array ++ data ++ array.drop (offset + data.length)

theorem length_overwrite (array : Bytes) (offset : Nat) {data : Bytes} (nonempty : data ≠ []) :
    (overwrite array offset data).length = max array.length (offset + data.length) := by
  simp only [overwrite, if_neg nonempty, List.length_append, length_fit, List.length_drop]
  omega

theorem getD_fit (width : Nat) (data : Bytes) (index : Nat) :
    (fit width data).getD index 0 = if index < width then data.getD index 0 else 0 := by
  simp only [fit, List.getD_eq_getElem?_getD, List.getElem?_append, List.getElem?_take,
    List.getElem?_replicate, List.length_take]
  by_cases inside : index < width
  · by_cases stored : index < data.length
    · rw [if_pos (by omega), if_pos inside, if_pos inside]
    · rw [if_neg (by omega), if_pos inside, List.getElem?_eq_none (by omega)]
      split <;> rfl
  · rw [if_neg (by omega), if_neg inside, if_neg (by omega)]
    rfl

theorem getD_overwrite (array : Bytes) (offset : Nat) (data : Bytes) (index : Nat) :
    (overwrite array offset data).getD index 0 =
      if offset ≤ index ∧ index < offset + data.length then data.getD (index - offset) 0
      else array.getD index 0 := by
  rw [overwrite]
  split
  · rename_i empty
    rw [empty, List.length_nil, if_neg (by omega)]
  · rw [List.append_assoc, List.getD_eq_getElem?_getD, List.getElem?_append, length_fit]
    by_cases before : index < offset
    · have front := getD_fit offset array index
      rw [List.getD_eq_getElem?_getD, if_pos before] at front
      rw [if_pos before, if_neg (by omega), front]
    · rw [if_neg before, List.getElem?_append]
      by_cases inside : index < offset + data.length
      · rw [if_pos (by omega), if_pos (by omega), List.getD_eq_getElem?_getD]
      · have rest : offset + data.length + (index - offset - data.length) = index := by omega
        rw [if_neg (by omega), if_neg (by omega), List.getElem?_drop, rest, List.getD_eq_getElem?_getD]

def stretch (byteAt : Nat → UInt8) (start count : Nat) : Bytes :=
  (List.range' start count).map byteAt

@[simp] theorem length_stretch (byteAt : Nat → UInt8) (start count : Nat) :
    (stretch byteAt start count).length = count := by
  simp [stretch]

@[simp] theorem getElem_stretch (byteAt : Nat → UInt8) (start count : Nat) {index : Nat}
    (inside : index < (stretch byteAt start count).length) :
    (stretch byteAt start count)[index] = byteAt (start + index) := by
  simp [stretch]

theorem stretch_add (byteAt : Nat → UInt8) (start first second : Nat) :
    stretch byteAt start (first + second) =
      stretch byteAt start first ++ stretch byteAt (start + first) second := by
  rw [stretch, stretch, stretch, ← List.map_append, List.range'_append_1]

theorem slice_stretch (byteAt : Nat → UInt8) {start count offset length : Nat}
    (inside : offset + length ≤ count) :
    slice (stretch byteAt start count) offset length = stretch byteAt (start + offset) length := by
  apply List.ext_getElem
  · simp [Nat.le_sub_of_add_le' inside]
  · intro index left right
    simp [slice, Nat.add_assoc]

end GuestStorage.Bytes
