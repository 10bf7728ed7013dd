import GuestStorage.Proofs.Compression.Cursors

namespace GuestStorage.Lzss

def plainLength (buffer : Bytes) : Nat := buffer.length - (streamBounds buffer).2

def textRoom (buffer : Bytes) : Nat := growth buffer + (streamBounds buffer).2

theorem take_append_eq_iff {front text whole : Bytes} {count : Nat} (stored : count ≤ whole.length)
    (same : front.take count = (whole.take count).take front.length) :
    (front ++ text).take count = whole.take count ↔ (whole.take count).drop front.length <+: text := by
  have width : ((whole.take count).drop front.length).length = count - front.length := by
    rw [List.length_drop, List.length_take, Nat.min_eq_left stored]
  calc (front ++ text).take count = whole.take count
      ↔ front.take count ++ text.take (count - front.length) =
          (whole.take count).take front.length ++ (whole.take count).drop front.length := by
        rw [List.take_append, List.take_append_drop]
    _ ↔ (whole.take count).drop front.length = text.take (count - front.length) := by
        rw [same, List.append_right_inj, eq_comm]
    _ ↔ (whole.take count).drop front.length <+: text := by
        rw [List.prefix_iff_eq_take, width]

/-- The bytes below the stream are kept just when the text repeats those that it reaches; one that has room
reaches none. -/
theorem decompress_keeps_iff {buffer data : Bytes} (decodes : decompress buffer = .ok data) :
    ∃ text, expansion buffer = .ok text ∧
      data = (Bytes.fit data.length buffer).take (data.length - text.length) ++ text ∧
      (data.take (plainLength buffer) = buffer.take (plainLength buffer) ↔
        (buffer.take (plainLength buffer)).drop (data.length - text.length) <+: text) ∧
      (text.length ≤ textRoom buffer → data.take (plainLength buffer) = buffer.take (plainLength buffer)) := by
  obtain ⟨text, expands, -, sized, split⟩ := decompress_eq_ok decodes
  obtain ⟨-, -, total⟩ := decompressedSize_eq_ok sized
  have stored : plainLength buffer ≤ buffer.length := Nat.sub_le ..
  have front := Cursors.length_take_fit buffer (Nat.sub_le data.length text.length)
  have same : ((Bytes.fit data.length buffer).take (data.length - text.length)).take (plainLength buffer) =
      (buffer.take (plainLength buffer)).take (data.length - text.length) := by
    rw [List.take_take, Nat.min_comm, ← List.take_take, Bytes.take_fit stored (by omega)]
  have keeps : data.take (plainLength buffer) = buffer.take (plainLength buffer) ↔
      (buffer.take (plainLength buffer)).drop (data.length - text.length) <+: text := by
    conv_lhs => rw [split]
    rw [take_append_eq_iff stored (same.trans (by rw [front])), front]
  refine ⟨text, expands, split, keeps, fun fits => keeps.mpr ?_⟩
  have above : plainLength buffer ≤ data.length - text.length := by
    rw [textRoom] at fits
    rw [plainLength, total]
    omega
  rw [List.drop_of_length_le (by rw [List.length_take]; omega)]
  exact List.nil_prefix

/-- Eight plain bytes below three of text, which a back-reference repeats six times, in front of a footer that
makes no more room. -/
def overrun : Bytes :=
  [0x50, 0x51, 0x52, 0x53, 0x54, 0x55, 0x56, 0x57] ++ [0x00, 0xF0, 0x61, 0x62, 0x63, 0x10] ++
    [0x0E, 0x00, 0x00, 0x08, 0x00, 0x00, 0x00, 0x00]

def repeated : Bytes := [0x50, 0x61, 0x62, 0x63, 0x61, 0x62, 0x63, 0x61] ++ overrun.drop 8

def overrunData : Bytes := 0x50 :: (List.replicate 7 [0x61, 0x62, 0x63]).flatten

theorem repeated_kept :
    decompress repeated = .ok overrunData ∧
      overrunData.take (plainLength repeated) = repeated.take (plainLength repeated) := by
  have decodes : decompress repeated = .ok overrunData := rfl
  obtain ⟨text, expands, -, keeps, -⟩ := decompress_keeps_iff decodes
  have made : text = overrunData.drop 1 := Except.ok.inj (expands.symm.trans rfl)
  subst made
  exact ⟨decodes, keeps.mpr (by decide)⟩

theorem overrun_overwrites :
    decompress overrun = .ok overrunData ∧ plainLength overrun = 8 ∧
      overrunData.take 8 ≠ overrun.take 8 :=
  ⟨rfl, by decide, by decide⟩

end GuestStorage.Lzss
