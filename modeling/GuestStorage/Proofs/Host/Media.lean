import GuestStorage.Host.File
import GuestStorage.Proofs.Bytes

namespace GuestStorage

instance decidableEqExcept {ε α : Type} [DecidableEq ε] [DecidableEq α] :
    DecidableEq (Except ε α)
  | .error left, .error right => decidable_of_iff (left = right) ⟨congrArg _, Except.error.inj⟩
  | .ok left, .ok right => decidable_of_iff (left = right) ⟨congrArg _, Except.ok.inj⟩
  | .error _, .ok _ => isFalse nofun
  | .ok _, .error _ => isFalse nofun

namespace Contents

@[simp] theorem getElem_read (contents : Contents) (offset length : Nat) {index : Nat}
    (inside : index < (contents.read offset length).length) :
    (contents.read offset length)[index] = contents.byteAt (offset + index) := by
  simp [read]

theorem fit_read (contents : Contents) (offset count : Nat) :
    Bytes.fit count (contents.read offset count) = Bytes.stretch contents.byteAt offset count := by
  have whole : (contents.read offset count).take count = contents.read offset count := by
    apply List.take_of_length_le
    rw [length_read]
    exact Nat.min_le_left ..
  apply List.ext_getElem
  · simp
  · intro index left right
    have below : index < count := by simpa using right
    simp only [Bytes.fit, whole, Bytes.getElem_stretch]
    by_cases stored : index < contents.size - offset
    · rw [List.getElem_append_left (by simp; omega), getElem_read]
    · rw [List.getElem_append_right (by simp; omega), List.getElem_replicate]
      exact (byteAt_eq_zero (by omega)).symm

@[simp] theorem length_toBytes (contents : Contents) : contents.toBytes.length = contents.size := by
  simp [toBytes]

@[simp] theorem getElem_toBytes (contents : Contents) {index : Nat}
    (inside : index < contents.toBytes.length) :
    contents.toBytes[index] = contents.byteAt index := by
  simp [toBytes]

theorem read_eq_slice (contents : Contents) (offset length : Nat) :
    contents.read offset length = Bytes.slice contents.toBytes offset length := by
  apply List.ext_getElem
  · simp
  · intro index left right
    simp [Bytes.slice]

theorem slice_fit_read {contents : Contents} {start width offset length : Nat}
    (whole : start + width ≤ contents.size) (inside : offset + length ≤ width) :
    Bytes.slice (Bytes.fit width (contents.read start width)) offset length =
      Bytes.slice contents.toBytes (start + offset) length := by
  have exact : (contents.read start width).length = width := by
    simp
    omega
  rw [Bytes.fit_of_length exact, read_eq_slice, Bytes.slice_slice _ _ inside]

theorem byteAt_fit_read (contents : Contents) (start : Nat) {width offset : Nat}
    (inside : offset < width) : Bytes.byteAt (Bytes.fit width (contents.read start width)) offset =
      contents.byteAt (start + offset) := by
  simp [fit_read, Bytes.byteAt, inside]

theorem byteAt_ofBytes {data : Bytes} {index : Nat} (inside : index < data.length) :
    (ofBytes data).byteAt index = data[index] := by
  simp [byteAt, ofBytes, Edit.get?, inside]

@[simp] theorem toBytes_ofBytes (data : Bytes) : (ofBytes data).toBytes = data := by
  apply List.ext_getElem
  · simp [ofBytes]
  · intro index left right
    simp [byteAt_ofBytes right]

@[simp] theorem getD_toBytes (contents : Contents) (index : Nat) :
    contents.toBytes.getD index 0 = contents.byteAt index := by
  by_cases stored : index < contents.size
  · simp [stored]
  · simp [stored, byteAt_eq_zero (Nat.le_of_not_lt stored)]

theorem toBytes_eq_of_byteAt {contents : Contents} {data : Bytes} (size : contents.size = data.length)
    (shown : ∀ index, contents.byteAt index = data.getD index 0) : contents.toBytes = data := by
  apply List.ext_getElem
  · simp [size]
  · intro index left right
    simp [shown, right]

@[simp] theorem toBytes_write (contents : Contents) (offset : Nat) (data : Bytes) :
    (contents.write offset data).toBytes = Bytes.overwrite contents.toBytes offset data := by
  apply toBytes_eq_of_byteAt
  · by_cases empty : data = []
    · simp [write, Bytes.overwrite, empty]
    · simp [empty, Bytes.length_overwrite]
  · intro index
    rw [byteAt_write, Bytes.getD_overwrite, getD_toBytes]

@[simp] theorem toBytes_resize (contents : Contents) (size : Nat) :
    (contents.resize size).toBytes = Bytes.fit size contents.toBytes := by
  apply toBytes_eq_of_byteAt
  · simp [resize]
  · intro index
    rw [byteAt_resize, Bytes.getD_fit, getD_toBytes]

theorem toBytes_write_size (contents : Contents) (data : Bytes) :
    (contents.write contents.size data).toBytes = contents.toBytes ++ data := by
  rw [toBytes_write, Bytes.overwrite]
  split
  · simp [*]
  · rw [Bytes.fit_of_length contents.length_toBytes, List.drop_of_length_le (by simp), List.append_nil]

end Contents

namespace Medium

theorem readExact_regular {contents : Contents} {offset length : Nat} (below : offset < limit)
    (inside : offset + length ≤ contents.size) :
    (regular contents).readExact offset length = .ok (contents.read offset length) := by
  have whole : ¬ (contents.read offset length).length < length := by
    simp
    omega
  simp only [readExact, readAt, if_neg (Nat.not_le.mpr below), if_neg whole]

theorem readExact_eq_ok {medium : Medium} {offset length : Nat} {data : Bytes}
    (positive : 0 < length) (reads : medium.readExact offset length = .ok data) :
    ∃ contents, medium = .regular contents ∧ offset < limit ∧
      offset + length ≤ contents.size ∧ data = contents.read offset length := by
  by_cases below : limit ≤ offset
  · simp [readExact, readAt, below] at reads
  · cases medium with
    | directory => simp [readExact, readAt, below, Nat.ne_of_gt positive] at reads
    | regular contents =>
        simp only [readExact, readAt, if_neg below] at reads
        split at reads
        · contradiction
        · rename_i whole
          cases reads
          simp only [Contents.length_read] at whole
          exact ⟨contents, rfl, Nat.not_le.mp below, by omega, rfl⟩

end Medium

namespace Host

@[simp] theorem contents_setContents_self {host : Host} {id : Nat} (stored : id < host.files.length)
    (contents : Contents) : (host.setContents id contents).contents id = contents := by
  simp [Host.contents, setContents, List.getD_eq_getElem?_getD, stored]

@[simp] theorem contents_setContents_of_ne (host : Host) {id other : Nat} (apart : other ≠ id)
    (contents : Contents) : (host.setContents id contents).contents other = host.contents other := by
  simp [Host.contents, setContents, List.getD_eq_getElem?_getD, apart.symm]

@[simp] theorem length_setContents (host : Host) (id : Nat) (contents : Contents) :
    (host.setContents id contents).files.length = host.files.length := by
  simp only [setContents, List.length_set]

theorem medium_setContents {host : Host} {file : OpenFile} {id : Nat}
    (apart : file.entry ≠ .file id) (contents : Contents) :
    (host.setContents id contents).medium file = host.medium file := by
  obtain ⟨entry, writable⟩ := file
  cases entry with
  | directory => rfl
  | file other =>
      have different : other ≠ id := fun same => apart (congrArg _ same)
      simp only [medium, contents_setContents_of_ne host different]

theorem setContents_contents {host : Host} {id : Nat} (stored : id < host.files.length) :
    host.setContents id (host.contents id) = host := by
  have same : host.files.set id (host.contents id) = host.files := by
    rw [Host.contents, List.getD_eq_getElem?_getD, List.getElem?_eq_getElem stored,
      Option.getD_some, List.set_getElem_self]
  simp only [setContents, same]

@[simp] theorem setContents_setContents (host : Host) (id : Nat) (first second : Contents) :
    (host.setContents id first).setContents id second = host.setContents id second := by
  simp only [setContents, List.set_set]

theorem writeAt_size {host : Host} {id : Nat} {data : Bytes} (nonempty : data ≠ [])
    (bounded : (host.contents id).size + data.length < Medium.limit) :
    host.writeAt ⟨.file id, true⟩ (host.contents id).size data =
      .ok (host.setContents id ((host.contents id).write (host.contents id).size data)) := by
  simp only [writeAt, if_neg nonempty, if_neg (Nat.not_le.mpr bounded)]
  rw [if_neg (by omega)]

end Host

end GuestStorage
