import GuestStorage.Proofs.Loader.States

namespace GuestStorage

def ProgramSegment.stop (segment : ProgramSegment) : Nat := segment.offset.toNat + segment.size.toNat

namespace ProgramImage

def segments (image : ProgramImage) : List ProgramSegment := [image.code, image.readOnly, image.data]

def pagedSize (header : ExtendedHeader) : Nat :=
  (header.text.pages.toNat + header.readOnly.pages.toNat + header.data.pages.toNat) * pageSize

def zeroSize (header : ExtendedHeader) : Nat :=
  (header.bssSize.toNat + (pageSize - 1)) / pageSize * pageSize

def dataEnd (image : ProgramImage) (room : Nat) : Bytes :=
  Bytes.slice image.memory (image.data.stop - room) room

/-- The segments stand one right behind another, each of them in whole pages. -/
structure Segmented (image : ProgramImage) : Prop where
  code : image.code.offset = 0
  readOnly : image.readOnly.offset = image.code.size
  data : image.data.offset.toNat = image.readOnly.stop
  paged : ∀ segment ∈ image.segments, pageSize ∣ segment.size.toNat

structure Built (header : ExtendedHeader) (code : Bytes) (image : ProgramImage) : Prop where
  codeOffset : image.code.offset = 0
  readOnlyOffset : image.readOnly.offset = image.code.size
  dataOffset : image.data.offset = image.code.size + image.readOnly.size
  codeSize : image.code.size.toNat = header.text.pages.toNat * pageSize
  readOnlySize : image.readOnly.size.toNat = header.readOnly.pages.toNat * pageSize
  dataSize : image.data.size.toNat = header.data.pages.toNat * pageSize + zeroSize header
  memory : image.memory = code ++ List.replicate (zeroSize header) 0

theorem segmentSize_eq_ok {pages size : UInt32} (fits : segmentSize pages = .ok size) :
    size.toNat = pages.toNat * pageSize := by
  rw [segmentSize] at fits
  split at fits
  · cases fits
    exact UInt32.toNat_ofNat_of_lt' ‹_›
  · contradiction

theorem bssRoom_eq_ok {header : ExtendedHeader} {room : UInt32} (fits : bssRoom header.bssSize = .ok room) :
    room.toNat = zeroSize header := by
  rw [bssRoom] at fits
  split at fits
  · cases fits
    refine UInt32.toNat_ofNat_of_lt' (Nat.lt_of_le_of_lt (Nat.div_mul_le_self _ _) ‹_›)
  · contradiction

theorem dataSize_eq_ok {size room whole : UInt32} (fits : dataSize size room = .ok whole) :
    whole.toNat = size.toNat + room.toNat := by
  rw [dataSize] at fits
  split at fits
  · cases fits
    rw [UInt32.toNat_add]
    exact Nat.mod_eq_of_lt ‹_›
  · contradiction

theorem ofCode_built {header : ExtendedHeader} {programId : UInt64} {code : Bytes} {image : ProgramImage}
    (builds : ofCode header programId code = .ok image) : Built header code image := by
  rw [ofCode] at builds
  obtain ⟨textSize, text, builds⟩ := bind_eq_ok.mp builds
  obtain ⟨readOnlySize, readOnly, builds⟩ := bind_eq_ok.mp builds
  obtain ⟨room, zeros, builds⟩ := bind_eq_ok.mp builds
  obtain ⟨ownSize, own, builds⟩ := bind_eq_ok.mp builds
  obtain ⟨wholeSize, whole, builds⟩ := bind_eq_ok.mp builds
  have size := dataSize_eq_ok whole
  rw [segmentSize_eq_ok own, bssRoom_eq_ok zeros] at size
  obtain rfl := Except.ok.inj builds
  exact {
    codeOffset := rfl
    readOnlyOffset := rfl
    dataOffset := rfl
    codeSize := segmentSize_eq_ok text
    readOnlySize := segmentSize_eq_ok readOnly
    dataSize := size
    memory := by rw [bssRoom_eq_ok zeros] }

namespace Built

variable {header : ExtendedHeader} {code : Bytes} {image : ProgramImage}

theorem segmented (built : Built header code image) (fits : pagedSize header < UInt32.size) :
    image.Segmented := by
  have total : image.code.size.toNat + image.readOnly.size.toNat ≤ pagedSize header := by
    rw [built.codeSize, built.readOnlySize, pagedSize, Nat.add_mul, Nat.add_mul]
    exact Nat.le_add_right _ _
  refine ⟨built.codeOffset, built.readOnlyOffset, ?_, ?_⟩
  · rw [built.dataOffset, UInt32.toNat_add, ProgramSegment.stop, built.readOnlyOffset]
    exact Nat.mod_eq_of_lt (Nat.lt_of_le_of_lt total fits)
  · intro segment member
    simp only [segments, List.mem_cons, List.not_mem_nil, or_false] at member
    rcases member with rfl | rfl | rfl
    · rw [built.codeSize]
      exact Nat.dvd_mul_left ..
    · rw [built.readOnlySize]
      exact Nat.dvd_mul_left ..
    · rw [built.dataSize, zeroSize, ← Nat.add_mul]
      exact Nat.dvd_mul_left ..

theorem stop_data (built : Built header code image) (fits : pagedSize header < UInt32.size) :
    image.data.stop = pagedSize header + zeroSize header := by
  have sum : pagedSize header = image.code.size.toNat + image.readOnly.size.toNat +
      header.data.pages.toNat * pageSize := by
    rw [built.codeSize, built.readOnlySize, pagedSize, Nat.add_mul, Nat.add_mul]
  rw [ProgramSegment.stop, (built.segmented fits).data, ProgramSegment.stop, built.readOnlyOffset,
    built.dataSize, sum, Nat.add_assoc, Nat.add_assoc, Nat.add_assoc]

theorem length_memory (built : Built header code image) :
    image.memory.length = code.length + zeroSize header := by
  rw [built.memory, List.length_append, List.length_replicate]

theorem inside_iff (built : Built header code image) (fits : pagedSize header < UInt32.size) :
    (∀ segment ∈ image.segments, segment.stop ≤ image.memory.length) ↔ pagedSize header ≤ code.length := by
  have segmented := built.segmented fits
  have last := built.stop_data fits
  -- The data segment ends last, so it decides.
  have readOnly : image.readOnly.stop ≤ image.data.stop := by
    rw [← segmented.data]
    exact Nat.le_add_right _ _
  have first : image.code.stop ≤ image.readOnly.stop := by
    rw [ProgramSegment.stop, segmented.code, UInt32.toNat_zero, Nat.zero_add, ← segmented.readOnly]
    exact Nat.le_add_right _ _
  rw [built.length_memory]
  constructor
  · intro inside
    have := inside image.data (by simp [segments])
    omega
  · intro long segment member
    simp only [segments, List.mem_cons, List.not_mem_nil, or_false] at member
    rcases member with rfl | rfl | rfl <;> omega

theorem zeros_iff (built : Built header code image) (fits : pagedSize header < UInt32.size) :
    (∀ byte ∈ image.dataEnd (zeroSize header), byte = 0) ↔
      ∀ byte ∈ Bytes.slice code (pagedSize header) (zeroSize header), byte = 0 := by
  have parts : image.dataEnd (zeroSize header) =
      Bytes.slice code (pagedSize header) (zeroSize header) ++
        ((List.replicate (zeroSize header) 0).drop (pagedSize header - code.length)).take
          (zeroSize header - (code.drop (pagedSize header)).length) := by
    rw [dataEnd, built.stop_data fits, Nat.add_sub_cancel, Bytes.slice, built.memory, List.drop_append,
      List.take_append, Bytes.slice]
  rw [parts]
  constructor
  · intro zero byte member
    exact zero byte (List.mem_append_left _ member)
  · intro zero byte member
    rcases List.mem_append.mp member with stored | added
    · exact zero byte stored
    · exact List.eq_of_mem_replicate (List.mem_of_mem_drop (List.mem_of_mem_take added))

end Built

end ProgramImage

namespace Loader

open ProgramImage

theorem load_eq_ok {loader : Loader} {medium : Medium} {image : ProgramImage}
    (loads : (loader.load medium).2 = .ok image) :
    ∃ header code, (loader.load medium).1.extendedHeader = some header ∧
      (loader.loadSection medium codeName).2 = .ok code ∧
      ofCode header (loader.load medium).1.programId code = .ok image := by
  rw [load] at loads ⊢
  split at loads
  · contradiction
  · rename_i before
    rw [if_neg before, loadSection]
    simp only [afterHeaders] at loads ⊢
    rcases loader.loadHeaders_cases medium with
      ⟨left, cause, -, -, -, fails⟩ | ⟨next, -, reads⟩
    · rw [fails] at loads
      contradiction
    · rw [reads] at loads ⊢
      simp only [programImage] at loads ⊢
      cases stored : next.sectionNamed medium codeName with
      | error cause => simp [stored] at loads
      | ok code =>
          cases known : next.extendedHeader with
          | none => simp [stored, known] at loads
          | some header =>
              simp only [stored, known] at loads ⊢
              cases builds : ofCode header next.programId code with
              | error fault =>
                  rw [builds] at loads
                  change Except.error _ = Except.ok _ at loads
                  contradiction
              | ok built =>
                  rw [builds] at loads
                  cases Except.ok.inj loads
                  exact ⟨header, code, known, rfl, builds⟩

/-- The segments of a program lie where they should, but whether they lie inside its memory is up to the code:
they do just when it fills their pages. What it holds behind these stands at the end of the data segment, where
zeros should be. -/
theorem load_inside_iff {loader : Loader} {medium : Medium} {image : ProgramImage}
    (loads : (loader.load medium).2 = .ok image) :
    ∃ header code, (loader.load medium).1.extendedHeader = some header ∧
      (loader.loadSection medium codeName).2 = .ok code ∧
      image.memory = code ++ List.replicate (zeroSize header) 0 ∧
      (pagedSize header < UInt32.size →
        image.Segmented ∧
        ((∀ segment ∈ image.segments, segment.stop ≤ image.memory.length) ↔ pagedSize header ≤ code.length) ∧
        ((∀ byte ∈ image.dataEnd (zeroSize header), byte = 0) ↔
          ∀ byte ∈ Bytes.slice code (pagedSize header) (zeroSize header), byte = 0)) := by
  obtain ⟨header, code, known, stored, builds⟩ := load_eq_ok loads
  have built := ofCode_built builds
  exact ⟨header, code, known, stored, built.memory, fun fits =>
    ⟨built.segmented fits, built.inside_iff fits, built.zeros_iff fits⟩⟩

def bareLoader : Loader := ofFile ⟨.file 0, false⟩ ⟨["title"]⟩ .zero

def filledTitle : Contents :=
  (((codeTitle.resize 0x1C00).write 0xA0C [0, 0x10]).write 0x214 [1]).write 0x23C [1]

theorem load_inside_filledTitle :
    ∃ image, (bareLoader.load (.regular filledTitle)).2 = .ok image ∧ image.Segmented ∧
      (∀ segment ∈ image.segments, segment.stop ≤ image.memory.length) ∧
      ∀ byte ∈ image.dataEnd 0x1000, byte = 0 := by
  have sizes : (bareLoader.load (.regular filledTitle)).1.extendedHeader.map
      (fun header => (pagedSize header, zeroSize header)) = some (0x1000, 0x1000) := by decide +kernel
  have length : (bareLoader.load (.regular filledTitle)).2.map (·.memory.length) = .ok 0x2000 := by
    decide +kernel
  cases loads : (bareLoader.load (.regular filledTitle)).2 with
  | error cause => simp [loads, Except.map] at length
  | ok image =>
      obtain ⟨header, code, known, -, memory, sound⟩ := load_inside_iff loads
      rw [known, Option.map_some, Option.some.injEq, Prod.mk.injEq] at sizes
      obtain ⟨paged, zeros⟩ := sizes
      have filled : code.length = 0x1000 := by
        have whole : image.memory.length = 0x2000 := by
          rw [loads] at length
          exact Except.ok.inj length
        rw [memory, List.length_append, List.length_replicate, zeros] at whole
        omega
      obtain ⟨segmented, inside, zero⟩ := sound (by rw [paged]; decide)
      rw [paged, zeros] at zero
      refine ⟨image, rfl, segmented, inside.mpr (Nat.le_of_eq (paged.trans filled.symm)), zero.mpr ?_⟩
      rw [Bytes.slice, List.drop_of_length_le (Nat.le_of_eq filled), List.take_nil]
      exact List.forall_mem_nil _

def shortTitle : Contents := codeTitle.write 0x214 [1]

theorem shortTitle_outside :
    (bareLoader.load (.regular shortTitle)).1.extendedHeader.map pagedSize = some 0x1000 ∧
      (bareLoader.load (.regular shortTitle)).2.map (fun image => (image.code.stop, image.memory.length)) =
        .ok (0x1000, 16) := by
  decide +kernel

end Loader

end GuestStorage
