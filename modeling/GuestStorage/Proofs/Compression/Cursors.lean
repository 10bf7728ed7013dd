import GuestStorage.Proofs.Compression.Decoding
import Mathlib.Data.Nat.Bitwise

/-!
# Decompression by cursors

The same decompression over two buffers of fixed length: a cursor that reads the compressed bytes and one that
writes the output, both from the end down. Every access and every step of a cursor is checked here, and a check
that fails ends the run as `outOfRange` or `underflow`. `checkedDecompress_eq` says that no check ever fails:
whatever the input, the cursors end as `decompress` does.
-/

namespace GuestStorage.Lzss

/-! ## Checked steps -/

/-- Why the cursors stop before the end: the stream is refused, or a check failed. -/
inductive Stop
  | refused (fault : DecompressionFault)
  | outOfRange
  | underflow
  deriving DecidableEq, Repr

def lower (cursor count : Nat) : Except Stop Nat :=
  if count ≤ cursor then .ok (cursor - count) else .error .underflow

def fetch (buffer : Bytes) (index : Nat) : Except Stop UInt8 :=
  match buffer[index]? with
  | some byte => .ok byte
  | none => .error .outOfRange

def store (buffer : Bytes) (index : Nat) (byte : UInt8) : Except Stop Bytes :=
  if index < buffer.length then .ok (buffer.set index byte) else .error .outOfRange

def fillFront (buffer source : Bytes) : Except Stop Bytes :=
  if source.length ≤ buffer.length then .ok (source ++ buffer.drop source.length) else .error .outOfRange

def fetchWord (buffer : Bytes) (index : Nat) : Except Stop Nat := do
  let first ← fetch buffer index
  let second ← fetch buffer (index + 1)
  let third ← fetch buffer (index + 2)
  let fourth ← fetch buffer (index + 3)
  return Bytes.toNatLE [first, second, third, fourth]

/-! ## The cursors -/

structure Cursors where
  index : Nat
  out : Nat
  output : Bytes
  deriving DecidableEq, Repr

namespace Cursors

def copy (total distance : Nat) : Nat → Cursors → Except Stop Cursors
  | 0, cursors => .ok cursors
  | count + 1, cursors =>
    if total ≤ cursors.out + distance then .error (.refused .segmentOffset)
    else do
      let byte ← fetch cursors.output (cursors.out + distance)
      let out ← lower cursors.out 1
      let output ← store cursors.output out byte
      copy total distance count { cursors with out, output }

def readCopy (buffer : Bytes) (total : Nat) (cursors : Cursors) : Except Stop Cursors :=
  if cursors.index < 2 then .error (.refused .segmentHeader)
  else do
    let index ← lower cursors.index 2
    let low ← fetch buffer index
    let high ← fetch buffer (index + 1)
    let word := low.toNat + 256 * high.toNat
    if cursors.out < word / 4096 + 3 then .error (.refused .segmentSize)
    else copy total (word % 4096 + 2) (word / 4096 + 3) { cursors with index }

def readLiteral (buffer : Bytes) (cursors : Cursors) : Except Stop Cursors := do
  let out ← lower cursors.out 1
  let index ← lower cursors.index 1
  let byte ← fetch buffer index
  let output ← store cursors.output out byte
  return { index, out, output }

def readToken (buffer : Bytes) (total : Nat) (control : UInt8) (cursors : Cursors) : Except Stop Cursors :=
  if control &&& 0x80 ≠ 0 then readCopy buffer total cursors else readLiteral buffer cursors

/-- What is left of a group: as many tokens as `bits`, whose marks stand in the high bits of `control`. -/
def readTokens (buffer : Bytes) (total stop : Nat) : Nat → UInt8 → Cursors → Except Stop Cursors
  | 0, _, cursors => .ok cursors
  | bits + 1, control, cursors =>
    if cursors.index ≤ stop ∨ cursors.index = 0 ∨ cursors.out = 0 then .ok cursors
    else do
      let next ← readToken buffer total control cursors
      readTokens buffer total stop bits (control <<< 1) next

def readGroup (buffer : Bytes) (total stop : Nat) (cursors : Cursors) : Except Stop Cursors := do
  let index ← lower cursors.index 1
  let control ← fetch buffer index
  readTokens buffer total stop 8 control { cursors with index }

/-! ## The stream gets shorter -/

theorem lower_eq_ok {cursor count lowered : Nat} (lowers : lower cursor count = .ok lowered) :
    lowered + count = cursor := by
  rw [lower] at lowers
  split at lowers
  · cases lowers
    omega
  · contradiction

theorem index_of_copy {total distance count : Nat} {cursors after : Cursors}
    (copies : copy total distance count cursors = .ok after) : after.index = cursors.index := by
  induction count generalizing cursors with
  | zero =>
      cases copies
      rfl
  | succ count ih =>
      rw [copy] at copies
      split at copies
      · contradiction
      · obtain ⟨byte, -, copies⟩ := bind_eq_ok.mp copies
        obtain ⟨out, -, copies⟩ := bind_eq_ok.mp copies
        obtain ⟨output, -, copies⟩ := bind_eq_ok.mp copies
        have same := ih copies
        exact same

theorem index_lt_of_readToken {buffer : Bytes} {total : Nat} {control : UInt8} {cursors after : Cursors}
    (reads : readToken buffer total control cursors = .ok after) : after.index < cursors.index := by
  rw [readToken] at reads
  split at reads
  · rw [readCopy] at reads
    split at reads
    · contradiction
    · obtain ⟨index, lowers, reads⟩ := bind_eq_ok.mp reads
      obtain ⟨low, -, reads⟩ := bind_eq_ok.mp reads
      obtain ⟨high, -, reads⟩ := bind_eq_ok.mp reads
      have lowered := lower_eq_ok lowers
      dsimp only at reads
      split at reads
      · contradiction
      · rw [index_of_copy reads]
        dsimp only
        omega
  · rw [readLiteral] at reads
    obtain ⟨out, -, reads⟩ := bind_eq_ok.mp reads
    obtain ⟨index, lowers, reads⟩ := bind_eq_ok.mp reads
    obtain ⟨byte, -, reads⟩ := bind_eq_ok.mp reads
    obtain ⟨output, -, reads⟩ := bind_eq_ok.mp reads
    have lowered := lower_eq_ok lowers
    cases reads
    dsimp only
    omega

theorem index_le_of_readTokens {buffer : Bytes} {total stop bits : Nat} {control : UInt8}
    {cursors after : Cursors} (reads : readTokens buffer total stop bits control cursors = .ok after) :
    after.index ≤ cursors.index := by
  induction bits generalizing control cursors with
  | zero =>
      cases reads
      exact Nat.le_refl _
  | succ bits ih =>
      rw [readTokens] at reads
      split at reads
      · cases reads
        exact Nat.le_refl _
      · obtain ⟨next, token, reads⟩ := bind_eq_ok.mp reads
        exact Nat.le_trans (ih reads) (Nat.le_of_lt (index_lt_of_readToken token))

theorem index_lt_of_readGroup {buffer : Bytes} {total stop : Nat} {cursors after : Cursors}
    (reads : readGroup buffer total stop cursors = .ok after) : after.index < cursors.index := by
  rw [readGroup] at reads
  obtain ⟨index, lowers, reads⟩ := bind_eq_ok.mp reads
  obtain ⟨control, -, reads⟩ := bind_eq_ok.mp reads
  have lowered := lower_eq_ok lowers
  have := index_le_of_readTokens reads
  dsimp only at this
  omega

def readStream (buffer : Bytes) (total stop : Nat) (cursors : Cursors) : Except Stop Cursors :=
  if stop < cursors.index then
    match _ : readGroup buffer total stop cursors with
    | .error cause => .error cause
    | .ok next => readStream buffer total stop next
  else .ok cursors
termination_by cursors.index
decreasing_by exact index_lt_of_readGroup ‹_›

end Cursors

/-! ## Whole buffers -/

def checkedSize (buffer : Bytes) : Except Stop Nat :=
  if buffer.length < footerSize then .error (.refused (.noFooter buffer.length))
  else do
    let index ← lower buffer.length 4
    let growth ← fetchWord buffer index
    if buffer.length * maxGrowth < growth then .error (.refused (.growthTooLarge growth buffer.length))
    else return buffer.length + growth

def checkedExpand (buffer : Bytes) (total top bottom : Nat) : Except Stop Bytes := do
  let index ← lower buffer.length top
  let stop ← lower buffer.length bottom
  let output ← fillFront (List.replicate total 0) buffer
  let last ← Cursors.readStream buffer total stop { index, out := total, output }
  return last.output

def checkedDecompress (buffer : Bytes) : Except Stop Bytes := do
  let total ← checkedSize buffer
  let footer ← lower buffer.length footerSize
  let bounds ← fetchWord buffer footer
  let top := bounds / 0x1000000
  let bottom := bounds % 0x1000000
  if buffer.length < top ∨ buffer.length < bottom then
    .error (.refused (.rangesTooLarge top bottom buffer.length))
  else checkedExpand buffer total top bottom

/-! ## No check fails -/

theorem lower_of_le {cursor count : Nat} (enough : count ≤ cursor) :
    lower cursor count = .ok (cursor - count) := if_pos enough

theorem fetch_of_getElem? {buffer : Bytes} {index : Nat} {byte : UInt8} (stands : buffer[index]? = some byte) :
    fetch buffer index = .ok byte := by
  rw [fetch, stands]

theorem fetch_of_lt {buffer : Bytes} {index : Nat} (inside : index < buffer.length) :
    fetch buffer index = .ok buffer[index] := fetch_of_getElem? (List.getElem?_eq_getElem inside)

theorem fetchWord_of_le {buffer : Bytes} {index : Nat} (inside : index + 4 ≤ buffer.length) :
    fetchWord buffer index = .ok (Bytes.word32 buffer index).toNat := by
  have field : Bytes.slice buffer index 4 =
      [buffer[index], buffer[index + 1], buffer[index + 2], buffer[index + 3]] := by
    rw [Bytes.slice, List.drop_eq_getElem_cons (by omega), List.drop_eq_getElem_cons (by omega),
      List.drop_eq_getElem_cons (by omega), List.drop_eq_getElem_cons (by omega)]
    rfl
  have small : Bytes.toNatLE (Bytes.slice buffer index 4) < UInt32.size := by
    have first := buffer[index].toNat_lt
    have second := buffer[index + 1].toNat_lt
    have third := buffer[index + 2].toNat_lt
    have fourth := buffer[index + 3].toNat_lt
    simp only [field, Bytes.toNatLE, UInt32.size]
    omega
  rw [Bytes.word32, UInt32.toNat_ofNat_of_lt' small, field]
  simp (disch := omega) only [fetchWord, fetch_of_lt, ok_bind]
  rfl

theorem checkedSize_eq (buffer : Bytes) : checkedSize buffer = (decompressedSize buffer).mapError .refused := by
  rw [checkedSize, decompressedSize]
  split
  · rfl
  · rename_i whole
    rw [footerSize] at whole
    simp (disch := omega) only [lower_of_le, fetchWord_of_le, ok_bind]
    change (if buffer.length * maxGrowth < growth buffer then _ else _) = _
    split <;> rfl

namespace Cursors

variable {buffer : Bytes} {total stop : Nat} {cursors : Cursors} {built : Array UInt8}

/-- The output below the write cursor is what it was at the start, and what is built stands above it. -/
structure Follows (buffer : Bytes) (total : Nat) (cursors : Cursors) (built : Array UInt8) : Prop where
  inside : cursors.index ≤ buffer.length
  room : cursors.out + built.size = total
  output : cursors.output = (Bytes.fit total buffer).take cursors.out ++ built.toList.reverse

theorem length_take_fit (buffer : Bytes) {count width : Nat} (short : count ≤ width) :
    ((Bytes.fit width buffer).take count).length = count := by
  simp [Nat.min_eq_left short]

namespace Follows

theorem length_output (follows : Follows buffer total cursors built) : cursors.output.length = total := by
  have := follows.room
  rw [follows.output, List.length_append, length_take_fit buffer (by omega)]
  simpa

theorem descend (follows : Follows buffer total cursors built) {index : Nat} (lower : index ≤ cursors.index) :
    Follows buffer total { cursors with index } built :=
  ⟨Nat.le_trans lower follows.inside, follows.room, follows.output⟩

theorem push (follows : Follows buffer total cursors built) (room : 0 < cursors.out) (byte : UInt8) :
    ∃ output, store cursors.output (cursors.out - 1) byte = .ok output ∧
      Follows buffer total { cursors with out := cursors.out - 1, output } (built.push byte) := by
  have sum := follows.room
  refine ⟨_, if_pos (by rw [follows.length_output]; omega), follows.inside, ?_, ?_⟩
  · rw [Array.size_push]
    dsimp only
    omega
  · obtain ⟨out, rest⟩ : ∃ out, cursors.out = out + 1 := ⟨cursors.out - 1, by omega⟩
    have width := length_take_fit buffer (show out ≤ total by omega)
    have inside : out < (Bytes.fit total buffer).length := by
      simp
      omega
    rw [follows.output, rest, List.take_succ_eq_append_getElem inside, Nat.add_sub_cancel, List.append_assoc,
      List.set_append_right _ _ (Nat.le_of_eq width), width, Nat.sub_self, Array.toList_push, List.reverse_concat]
    rfl

theorem fetch_built (follows : Follows buffer total cursors built) {distance : Nat} (near : distance < built.size) :
    fetch cursors.output (cursors.out + distance) = .ok built[built.size - 1 - distance] := by
  have sum := follows.room
  have width := length_take_fit buffer (show cursors.out ≤ total by omega)
  apply fetch_of_getElem?
  rw [follows.output, List.getElem?_append_right (by omega), width, Nat.add_sub_cancel_left,
    List.getElem?_reverse (by rwa [Array.length_toList]), Array.getElem?_toList, Array.length_toList,
    Array.getElem?_eq_getElem (by omega)]

end Follows

theorem copy_follows (distance count : Nat) (follows : Follows buffer total cursors built)
    (room : count ≤ cursors.out) :
    match copyBack distance count built with
    | none => copy total distance count cursors = .error (.refused .segmentOffset)
    | some longer => ∃ after, copy total distance count cursors = .ok after ∧ after.index = cursors.index ∧
        Follows buffer total after longer := by
  induction count generalizing cursors built with
  | zero => exact ⟨cursors, rfl, rfl, follows⟩
  | succ count ih =>
      have sum := follows.room
      by_cases near : distance < built.size
      · obtain ⟨output, stored, next⟩ := follows.push (by omega) built[built.size - 1 - distance]
        have rest := ih next (by dsimp only; omega)
        have step : copy total distance (count + 1) cursors =
            copy total distance count { cursors with out := cursors.out - 1, output } := by
          rw [copy, if_neg (by omega), follows.fetch_built near, lower_of_le (by omega)]
          simp [stored]
        rw [copyBack, dif_pos near, step]
        exact rest
      · rw [copyBack, dif_neg near, copy, if_pos (by omega)]

/-! ## Reading on -/

def EndsAs (buffer : Bytes) (total : Nat) (run : Except Stop Cursors) :
    Except DecompressionFault (Array UInt8) → Prop
  | .error fault => run = .error (.refused fault)
  | .ok built => ∃ last, run = .ok last ∧ Follows buffer total last built

def readOn (buffer : Bytes) (total stop bits : Nat) (control : UInt8) (cursors : Cursors) : Except Stop Cursors :=
  readTokens buffer total stop bits control cursors >>= readStream buffer total stop

theorem reverse_take_succ {index : Nat} (inside : index < buffer.length) :
    (buffer.take (index + 1)).reverse = buffer[index] :: (buffer.take index).reverse := by
  rw [List.take_succ_eq_append_getElem inside, List.reverse_concat]

theorem readOn_of_le (bits : Nat) (control : UInt8) (down : cursors.index ≤ stop) :
    readOn buffer total stop bits control cursors = .ok cursors := by
  have last : readStream buffer total stop cursors = .ok cursors := by
    rw [readStream, if_neg (Nat.not_lt.mpr down)]
  cases bits with
  | zero => exact last
  | succ bits =>
      rw [readOn, readTokens, if_pos (.inl down)]
      exact last

theorem readOn_control {bits index : Nat} (control : UInt8) (place : cursors.index = index + 1)
    (above : stop < cursors.index) (inside : index < buffer.length) (ended : bits = 0 ∨ cursors.out = 0) :
    readOn buffer total stop bits control cursors =
      readOn buffer total stop 8 buffer[index] { cursors with index } := by
  have stays : readTokens buffer total stop bits control cursors = .ok cursors := by
    cases bits with
    | zero => rfl
    | succ bits => rw [readTokens, if_pos (.inr (.inr (ended.resolve_left (Nat.succ_ne_zero bits))))]
  have group : readGroup buffer total stop cursors =
      readTokens buffer total stop 8 buffer[index] { cursors with index } := by
    simp [readGroup, place, lower_of_le (Nat.le_add_left ..), fetch_of_lt inside]
  rw [readOn, stays, ok_bind, readStream, if_pos above, group, readOn]
  cases readTokens buffer total stop 8 buffer[index] { cursors with index } <;> rfl

theorem readOn_token {bits : Nat} (control : UInt8) (above : stop < cursors.index) (room : cursors.out ≠ 0) :
    readOn buffer total stop (bits + 1) control cursors =
      readToken buffer total control cursors >>= readOn buffer total stop bits (control <<< 1) := by
  have goes : ¬ (cursors.index ≤ stop ∨ cursors.index = 0 ∨ cursors.out = 0) := by
    omega
  rw [readOn, readTokens, if_neg goes]
  cases readToken buffer total control cursors <;> rfl

theorem marked_iff (control : UInt8) : control &&& 0x80 ≠ 0 ↔ ¬ control < 0x80 := by
  have highest : (control &&& 0x80).toNat = (control.toNat.testBit 7).toNat * 2 ^ 7 :=
    (UInt8.toNat_and ..).trans (Nat.and_two_pow _ 7)
  rw [control_lt_iff, ne_eq, ← UInt8.toNat_inj, highest]
  cases control.toNat.testBit 7 <;> decide

section

variable {index : Nat} {control : UInt8} {onward : Cursors → Except Stop Cursors}
  {rest : Array UInt8 → Except DecompressionFault (Array UInt8)}

theorem readToken_literal (follows : Follows buffer total cursors built) (low : control < 0x80)
    (place : cursors.index = index + 1) (inside : index < buffer.length) (room : cursors.out ≠ 0)
    (goes : ∀ after longer, after.index = index → Follows buffer total after longer →
      EndsAs buffer total (onward after) (rest longer)) :
    EndsAs buffer total (readToken buffer total control cursors >>= onward)
      (rest (built.push buffer[index])) := by
  obtain ⟨output, stored, next⟩ := follows.push (Nat.pos_of_ne_zero room) buffer[index]
  have literal : ¬ control &&& 0x80 ≠ 0 := fun marked => (marked_iff control).mp marked low
  have reads : readToken buffer total control cursors =
      .ok { index, out := cursors.out - 1, output } := by
    rw [readToken, if_neg literal, readLiteral, lower_of_le (Nat.one_le_iff_ne_zero.mpr room), place]
    simp [lower_of_le (Nat.le_add_left ..), fetch_of_lt inside, stored]
  rw [reads, ok_bind]
  exact goes _ _ rfl (next.descend (show index ≤ cursors.index by omega))

theorem readToken_short (low : ¬ control < 0x80) (place : cursors.index = 1) :
    EndsAs buffer total (readToken buffer total control cursors >>= onward) (.error .segmentHeader) := by
  rw [readToken, if_pos ((marked_iff control).mpr low), readCopy, if_pos (by omega)]
  rfl

theorem readCopy_eq (place : cursors.index = index + 2) (inside : index + 1 < buffer.length) :
    readCopy buffer total cursors =
      if cursors.out < (buffer[index].toNat + 256 * buffer[index + 1].toNat) / 4096 + 3 then
        .error (.refused .segmentSize)
      else copy total ((buffer[index].toNat + 256 * buffer[index + 1].toNat) % 4096 + 2)
        ((buffer[index].toNat + 256 * buffer[index + 1].toNat) / 4096 + 3) { cursors with index } := by
  rw [readCopy, place, if_neg (by omega), lower_of_le (by omega)]
  simp (disch := omega) only [ok_bind, Nat.add_sub_cancel, fetch_of_lt]

theorem readToken_copy (follows : Follows buffer total cursors built) (low : ¬ control < 0x80)
    (place : cursors.index = index + 2) (inside : index + 1 < buffer.length) {word : Nat}
    (stored : buffer[index].toNat + 256 * buffer[index + 1].toNat = word)
    (goes : ∀ after longer, after.index = index → Follows buffer total after longer →
      EndsAs buffer total (onward after) (rest longer)) :
    EndsAs buffer total (readToken buffer total control cursors >>= onward)
      (if total < built.size + (word / 4096 + 3) then .error .segmentSize
      else
        match copyBack (word % 4096 + 2) (word / 4096 + 3) built with
        | none => .error .segmentOffset
        | some longer => rest longer) := by
  rw [readToken, if_pos ((marked_iff control).mpr low), readCopy_eq place inside, stored]
  have sum := follows.room
  by_cases long : total < built.size + (word / 4096 + 3)
  · rw [if_pos (by omega), if_pos long]
    rfl
  · have copies := copy_follows (word % 4096 + 2) (word / 4096 + 3)
      (follows.descend (show index ≤ cursors.index by omega)) (by dsimp only; omega)
    rw [if_neg (by omega), if_neg long]
    cases copied : copyBack (word % 4096 + 2) (word / 4096 + 3) built with
    | none =>
        simp only [copied] at copies ⊢
        rw [copies]
        rfl
    | some longer =>
        rw [copied] at copies
        obtain ⟨after, copies, reached, next⟩ := copies
        rw [copies, ok_bind]
        exact goes after longer reached next

end

theorem readOn_endsAs {cursors : Cursors} {built : Array UInt8} (follows : Follows buffer total cursors built)
    (bits : Nat) (control : UInt8) :
    EndsAs buffer total (readOn buffer total stop bits control cursors)
      (expand total (cursors.index - stop) bits control (buffer.take cursors.index).reverse built) := by
  by_cases down : cursors.index ≤ stop
  · rw [readOn_of_le bits control down, Nat.sub_eq_zero_of_le down, expand_zero]
    exact ⟨cursors, rfl, follows⟩
  obtain ⟨index, place⟩ : ∃ index, cursors.index = index + 1 := ⟨cursors.index - 1, by omega⟩
  have inside : index < buffer.length := by
    have := follows.inside
    omega
  have left : cursors.index - stop = index - stop + 1 := by omega
  have full : cursors.out = 0 ↔ total ≤ built.size := by
    have := follows.room
    omega
  rw [left, place, reverse_take_succ inside]
  by_cases ended : bits = 0 ∨ cursors.out = 0
  · have lowered : Follows buffer total { cursors with index } built := follows.descend (by omega)
    have rest := readOn_endsAs lowered 8 buffer[index]
    rw [readOn_control control place (by omega) inside ended]
    cases bits with
    | zero => exact rest
    | succ bits =>
        rw [expand.eq_def]
        simp only [if_pos (full.mp (ended.resolve_left (Nat.succ_ne_zero bits)))]
        exact rest
  · obtain ⟨bits, rfl⟩ : ∃ fewer, bits = fewer + 1 := ⟨bits - 1, by omega⟩
    have room : cursors.out ≠ 0 := fun zero => ended (.inr zero)
    rw [readOn_token control (by omega) room, expand.eq_def]
    simp only [if_neg (fun filled => room (full.mpr filled))]
    by_cases low : control < 0x80
    · rw [if_pos low]
      refine readToken_literal follows low place inside room fun after longer reached next => ?_
      have rest := readOn_endsAs next bits (control <<< 1)
      rwa [reached] at rest
    · rw [if_neg low]
      cases index with
      | zero => exact readToken_short low place
      | succ index =>
          rw [reverse_take_succ (by omega)]
          refine readToken_copy follows low place inside rfl fun after longer reached next => ?_
          have rest := readOn_endsAs next bits (control <<< 1)
          rwa [reached, show index - stop = index + 1 - stop - 1 by omega] at rest
termination_by cursors.index
decreasing_by
  · exact Nat.lt_of_lt_of_eq (Nat.lt_succ_self index) place.symm
  · omega
  · omega

end Cursors

open Cursors

theorem decompressedSize_eq_ok {buffer : Bytes} {total : Nat} (sized : decompressedSize buffer = .ok total) :
    footerSize ≤ buffer.length ∧ growth buffer ≤ buffer.length * maxGrowth ∧
      total = buffer.length + growth buffer := by
  rw [decompressedSize] at sized
  split at sized
  · contradiction
  · rename_i whole
    split at sized
    · contradiction
    · rename_i grows
      cases sized
      exact ⟨Nat.le_of_not_lt whole, Nat.le_of_not_lt grows, rfl⟩

theorem fillFront_zeros {buffer : Bytes} {total : Nat} (long : buffer.length ≤ total) :
    fillFront (List.replicate total 0) buffer = .ok (Bytes.fit total buffer) := by
  simp [fillFront, Bytes.fit, long, List.take_of_length_le]

theorem readStream_endsAs {buffer : Bytes} {bottom : Nat} (total top : Nat)
    (bottomInside : bottom ≤ buffer.length) :
    EndsAs buffer total
      (readStream buffer total (buffer.length - bottom) ⟨buffer.length - top, total, Bytes.fit total buffer⟩)
      (expand total (bottom - top) 0 0 (buffer.take (buffer.length - top)).reverse #[]) := by
  have start : Follows buffer total ⟨buffer.length - top, total, Bytes.fit total buffer⟩ #[] := by
    refine ⟨Nat.sub_le .., Nat.add_zero total, ?_⟩
    simp [List.take_of_length_le]
  have left : buffer.length - top - (buffer.length - bottom) = bottom - top := by omega
  rw [← left]
  exact readOn_endsAs start 0 0

theorem checkedExpand_eq {buffer : Bytes} {total top bottom : Nat} (long : buffer.length ≤ total)
    (topInside : top ≤ buffer.length) (bottomInside : bottom ≤ buffer.length) :
    checkedExpand buffer total top bottom =
      match expand total (bottom - top) 0 0 (buffer.take (buffer.length - top)).reverse #[] with
      | .error fault => .error (.refused fault)
      | .ok built => .ok ((Bytes.fit total buffer).take (total - built.size) ++ built.toList.reverse) := by
  have ends := readStream_endsAs total top bottomInside
  simp only [checkedExpand, lower_of_le topInside, lower_of_le bottomInside, fillFront_zeros long, ok_bind]
  cases expands : expand total (bottom - top) 0 0 (buffer.take (buffer.length - top)).reverse #[] with
  | error fault =>
      rw [expands] at ends
      rw [show readStream _ _ _ _ = _ from ends]
      rfl
  | ok built =>
      rw [expands] at ends
      obtain ⟨last, reads, follows⟩ := ends
      have front : last.out = total - built.size := by
        have := follows.room
        omega
      rw [reads]
      change Except.ok last.output = _
      rw [follows.output, front]

theorem checkedDecompress_eq (buffer : Bytes) :
    checkedDecompress buffer = (decompress buffer).mapError .refused := by
  rw [checkedDecompress, checkedSize_eq, decompress]
  cases sized : decompressedSize buffer with
  | error fault => rfl
  | ok total =>
      obtain ⟨whole, -, rfl⟩ := decompressedSize_eq_ok sized
      have footer : buffer.length - footerSize + 4 ≤ buffer.length := by
        rw [footerSize] at whole ⊢
        omega
      change (Except.ok (buffer.length + growth buffer) >>= _) = _
      simp only [lower_of_le whole, fetchWord_of_le footer, ok_bind]
      change (if buffer.length < (streamBounds buffer).1 ∨ buffer.length < (streamBounds buffer).2 then _
        else checkedExpand _ _ (streamBounds buffer).1 (streamBounds buffer).2) = _
      split
      · rfl
      · rename_i inside
        rw [not_or, Nat.not_lt, Nat.not_lt] at inside
        rw [checkedExpand_eq (Nat.le_add_right ..) inside.1 inside.2]
        cases expand (buffer.length + growth buffer) ((streamBounds buffer).2 - (streamBounds buffer).1) 0 0
            (buffer.take (buffer.length - (streamBounds buffer).1)).reverse #[] with
        | error fault => rfl
        | ok built => rfl

/-! ## What is decompressed -/

def expansion (buffer : Bytes) : Except DecompressionFault Bytes :=
  (expand (buffer.length + growth buffer) ((streamBounds buffer).2 - (streamBounds buffer).1) 0 0
    (buffer.take (buffer.length - (streamBounds buffer).1)).reverse #[]).map (·.toList.reverse)

theorem decompress_eq_ok {buffer data : Bytes} (decodes : decompress buffer = .ok data) :
    ∃ text, expansion buffer = .ok text ∧ text.length ≤ data.length ∧
      decompressedSize buffer = .ok data.length ∧
      data = (Bytes.fit data.length buffer).take (data.length - text.length) ++ text := by
  rw [decompress] at decodes
  cases sized : decompressedSize buffer with
  | error fault => simp [sized] at decodes
  | ok total =>
      obtain ⟨-, -, rfl⟩ := decompressedSize_eq_ok sized
      simp only [sized] at decodes
      split at decodes
      · contradiction
      · rename_i inside
        rw [not_or, Nat.not_lt, Nat.not_lt] at inside
        have ends := readStream_endsAs (buffer.length + growth buffer) (streamBounds buffer).1 inside.2
        split at decodes
        · contradiction
        · rename_i built expands
          rw [expands] at ends
          obtain ⟨last, -, follows⟩ := ends
          have room := follows.room
          have size : built.toList.reverse.length = built.size := by simp
          have length : data.length = buffer.length + growth buffer := by
            rw [← Except.ok.inj decodes, List.length_append, length_take_fit buffer (by omega), size]
            omega
          refine ⟨built.toList.reverse, by rw [expansion, expands]; rfl, by omega, by rw [length], ?_⟩
          rw [length, size]
          exact (Except.ok.inj decodes).symm

/-- On every input the cursors come to the end of `decompress`, and no check fails on the way. What they make is
as long as the footer says, and never longer than nine times the input. -/
theorem decompress_safe (buffer : Bytes) :
    checkedDecompress buffer = (decompress buffer).mapError .refused ∧
      (∀ fault, decompressedSize buffer = .error fault → decompress buffer = .error fault) ∧
      ∀ data, decompress buffer = .ok data →
        decompressedSize buffer = .ok data.length ∧ data.length ≤ 9 * buffer.length := by
  refine ⟨checkedDecompress_eq buffer, fun fault fails => ?_, fun data decodes => ?_⟩
  · rw [decompress, fails]
  · obtain ⟨text, -, -, sized, -⟩ := decompress_eq_ok decodes
    obtain ⟨-, grows, total⟩ := decompressedSize_eq_ok sized
    rw [maxGrowth] at grows
    exact ⟨sized, by omega⟩

def sevenfold : Bytes :=
  [0x00, 0xF0, 0x61, 0x62, 0x63, 0x10] ++ [0x0E, 0x00, 0x00, 0x08, 0x07, 0x00, 0x00, 0x00]

theorem sevenfold_safe :
    checkedDecompress sevenfold = .ok (List.replicate 7 [0x61, 0x62, 0x63]).flatten ∧
      ((List.replicate 7 [0x61, 0x62, 0x63]).flatten : Bytes).length ≤ 9 * sevenfold.length := by
  have decodes : decompress sevenfold = .ok (List.replicate 7 [0x61, 0x62, 0x63]).flatten := rfl
  obtain ⟨checked, -, sized⟩ := decompress_safe sevenfold
  refine ⟨?_, (sized _ decodes).2⟩
  rw [checked, decodes]
  rfl

end GuestStorage.Lzss
