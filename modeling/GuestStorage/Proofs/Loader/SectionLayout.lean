import GuestStorage.Proofs.Loader.States
import GuestStorage.Proofs.Loader.Transparency
import Mathlib.Data.List.Nodup
import Mathlib.Data.List.ReduceOption

namespace GuestStorage

structure ListedSection where
  name : String
  offset : UInt32
  size : UInt32
  named : name ≠ ""
  short : (Utf8.encode name).length ≤ 8
  unterminated : 0 ∉ Utf8.encode name
  deriving DecidableEq

namespace ListedSection

def toSection (listed : ListedSection) : Section :=
  ⟨Utf8.encode listed.name, listed.offset, listed.size⟩

def bytes (listed : ListedSection) : Bytes :=
  Bytes.fit 8 (Utf8.encode listed.name) ++ Bytes.ofNatLE 4 listed.offset.toNat ++
    Bytes.ofNatLE 4 listed.size.toNat

end ListedSection

/-- Eight slots, each with a section or unused, and no name twice. -/
structure TableLayout where
  slots : List (Option ListedSection)
  full : slots.length = SectionTable.slots
  distinct : (slots.reduceOption.map ListedSection.name).Nodup

namespace TableLayout

def listed (layout : TableLayout) : List ListedSection := layout.slots.reduceOption

def slotBytes : Option ListedSection → Bytes
  | none => List.replicate 16 0
  | some listed => listed.bytes

def slotSection : Option ListedSection → Section
  | none => ⟨[], 0, 0⟩
  | some listed => listed.toSection

def bytes (layout : TableLayout) : Bytes := layout.slots.flatMap slotBytes

def sections (layout : TableLayout) : SectionTable := layout.slots.map slotSection

@[simp] theorem length_slotBytes (slot : Option ListedSection) : (slotBytes slot).length = 16 := by
  cases slot with
  | none => rfl
  | some listed =>
      simp [slotBytes, ListedSection.bytes]

@[simp] theorem sectionAt_slice (data : Bytes) (offset : Nat) :
    SectionTable.sectionAt (Bytes.slice data offset 16) 0 = SectionTable.sectionAt data offset := by
  simp only [SectionTable.sectionAt, Bytes.word32]
  rw [Bytes.slice_slice _ _ (by decide), Bytes.slice_slice _ _ (by decide),
    Bytes.slice_slice _ _ (by decide)]
  rfl

@[simp] theorem sectionAt_slotBytes (slot : Option ListedSection) :
    SectionTable.sectionAt (slotBytes slot) 0 = slotSection slot := by
  cases slot with
  | none => rfl
  | some listed =>
      have name : Bytes.slice listed.bytes 0 8 = Bytes.fit 8 (Utf8.encode listed.name) := by
        have field := Bytes.slice_append [] (Bytes.fit 8 (Utf8.encode listed.name))
          (Bytes.ofNatLE 4 listed.offset.toNat ++ Bytes.ofNatLE 4 listed.size.toNat)
        simpa [ListedSection.bytes] using field
      have offset : Bytes.word32 listed.bytes 8 = listed.offset := by
        have field := Bytes.word32_append (Bytes.fit 8 (Utf8.encode listed.name))
          (Bytes.ofNatLE 4 listed.size.toNat) listed.offset.toNat
        simpa [ListedSection.bytes] using field
      have size : Bytes.word32 listed.bytes 12 = listed.size := by
        have field := Bytes.word32_append
          (Bytes.fit 8 (Utf8.encode listed.name) ++ Bytes.ofNatLE 4 listed.offset.toNat) []
          listed.size.toNat
        simpa [ListedSection.bytes] using field
      simp only [SectionTable.sectionAt, slotBytes, slotSection, ListedSection.toSection, Nat.zero_add,
        name, offset, size, Bytes.untilZero_fit listed.short listed.unterminated]

theorem ofBytes_bytes {layout : TableLayout} {data : Bytes} (whole : data.length = SectionTable.size)
    (written : Bytes.slice data 0 0x80 = layout.bytes) :
    SectionTable.ofBytes data = layout.sections := by
  simp only [SectionTable.ofBytes, Bytes.fit_of_length whole]
  apply List.ext_getElem
  · rw [List.length_map, List.length_range, sections, List.length_map, layout.full]
  · intro index left right
    have inside : index < layout.slots.length := by rwa [sections, List.length_map] at right
    have fits : 16 * index + 16 ≤ 0x80 := by
      rw [layout.full, SectionTable.slots] at inside
      omega
    have record : Bytes.slice data (16 * index) 16 = slotBytes layout.slots[index] := by
      rw [← Bytes.slice_flatMap length_slotBytes inside, ← bytes, ← written,
        Bytes.slice_slice _ _ fits, Nat.zero_add]
    simp only [sections, List.getElem_map, List.getElem_range]
    rw [← sectionAt_slice, record, sectionAt_slotBytes]

@[simp] theorem mem_listed {layout : TableLayout} {listed : ListedSection} :
    listed ∈ layout.listed ↔ some listed ∈ layout.slots :=
  List.reduceOption_mem_iff

theorem slot_of_find? {layout : TableLayout} {name : String} {entry : Section} (named : name ≠ "")
    (found : layout.sections.find? name = some entry) :
    ∃ listed ∈ layout.listed, listed.name = name ∧ entry = listed.toSection := by
  rw [SectionTable.find?] at found
  have member := List.mem_of_find?_eq_some found
  have chosen := List.find?_some found
  have same : entry.name = Utf8.encode name := of_decide_eq_true chosen
  obtain ⟨slot, stored, rfl⟩ := List.mem_map.mp member
  cases slot with
  | none =>
      have unnamed : Utf8.encode name = Utf8.encode "" := same.symm
      exact absurd (Loader.encode_inj unnamed) named
  | some listed => exact ⟨listed, mem_listed.mpr stored, Loader.encode_inj same, rfl⟩

theorem find?_of_absent {layout : TableLayout} {name : String} (named : name ≠ "")
    (absent : ∀ listed ∈ layout.listed, listed.name ≠ name) : layout.sections.find? name = none := by
  cases found : layout.sections.find? name with
  | none => rfl
  | some entry =>
      obtain ⟨listed, member, same, -⟩ := slot_of_find? named found
      exact absurd same (absent listed member)

theorem find?_of_mem {layout : TableLayout} {listed : ListedSection} (member : listed ∈ layout.listed) :
    layout.sections.find? listed.name = some listed.toSection := by
  cases found : layout.sections.find? listed.name with
  | none =>
      have stored : listed.toSection ∈ layout.sections :=
        List.mem_map_of_mem (mem_listed.mp member)
      have unmatched := List.find?_eq_none.mp found _ stored
      exact absurd (decide_eq_true rfl) unmatched
  | some entry =>
      obtain ⟨other, among, same, rfl⟩ := slot_of_find? listed.named found
      rw [List.inj_on_of_nodup_map layout.distinct among member same]

end TableLayout

namespace Contents

def exeFsStart (contents : Contents) : Nat :=
  (Bytes.word32 contents.toBytes 0x1A0).toNat * mediaUnit

def compressesCode (contents : Contents) : Bool := contents.byteAt 0x20D &&& 1 = 1

def sectionStart (contents : Contents) (listed : ListedSection) : Nat :=
  contents.exeFsStart + SectionTable.size + listed.offset.toNat

end Contents

/-- A container whose two headers agree on the program, and whose section table is written as laid out. -/
structure Laid (contents : Contents) (layout : TableLayout) : Prop where
  magic : Bytes.slice contents.toBytes 0x100 4 = ContainerHeader.containerMagic
  identified : Bytes.word64 contents.toBytes 0x400 = Bytes.word64 contents.toBytes 0x118
  table : Bytes.slice contents.toBytes contents.exeFsStart 0x80 = layout.bytes

structure Stores (contents : Contents) (listed : ListedSection) (payload : Bytes) : Prop where
  length : payload.length = listed.size.toNat
  inside : contents.sectionStart listed + payload.length ≤ contents.size
  bytes : Bytes.slice contents.toBytes (contents.sectionStart listed) payload.length = payload

namespace Laid

variable {contents : Contents} {layout : TableLayout} {keys : KeyProvider} {headers : Headers}

theorem locate_eq (laid : Laid contents layout) {base : Nat} {header : ContainerHeader}
    (located : Headers.locate (.regular contents) = .ok (base, header)) :
    base = 0 ∧ ContainerHeader.size ≤ contents.size ∧
      header = .ofBytes (contents.read 0 ContainerHeader.size) := by
  rw [Headers.locate] at located
  split at located
  · contradiction
  · rename_i data stored
    obtain ⟨_, same, -, whole, rfl⟩ := Medium.readExact_eq_ok (by decide) stored
    obtain rfl := Medium.regular.inj same
    rw [Nat.zero_add] at whole
    have plain : (ContainerHeader.ofBytes (contents.read 0 ContainerHeader.size)).magic ≠
        ContainerHeader.cardMagic := by
      rw [Headers.magic_read whole, laid.magic]
      decide
    rw [if_pos plain] at located
    cases located
    exact ⟨rfl, whole, rfl⟩

theorem exeFsOffset_read (whole : ContainerHeader.size ≤ contents.size) :
    (ContainerHeader.ofBytes (contents.read 0 ContainerHeader.size)).exeFsOffset =
      contents.exeFsStart := by
  simp only [ContainerHeader.exeFsOffset, ContainerHeader.ofBytes, ContainerHeader.regionAt, Bytes.word32]
  rw [Contents.slice_fit_read (by rwa [Nat.zero_add]) (by decide), Nat.zero_add]
  rfl

theorem programId_read (laid : Laid contents layout)
    (whole : ContainerHeader.size + ExtendedHeader.size ≤ contents.size) :
    (ExtendedHeader.ofBytes (contents.read ContainerHeader.size ExtendedHeader.size)).programId =
      (ContainerHeader.ofBytes (contents.read 0 ContainerHeader.size)).programId := by
  have front : 0 + ContainerHeader.size ≤ contents.size := by omega
  have agrees := laid.identified
  simp only [ExtendedHeader.ofBytes, ContainerHeader.ofBytes, Bytes.word64] at agrees ⊢
  rw [Contents.slice_fit_read whole (by decide), Contents.slice_fit_read front (by decide), Nat.zero_add,
    ← agrees]
  rfl

theorem isCompressed_read (contents : Contents) :
    (ExtendedHeader.ofBytes (contents.read ContainerHeader.size ExtendedHeader.size)).isCompressed =
      contents.compressesCode := by
  have inside : 0x0D < ExtendedHeader.size := by decide
  have flag := Contents.byteAt_fit_read contents ContainerHeader.size inside
  rw [ExtendedHeader.isCompressed, ExtendedHeader.ofBytes]
  dsimp only
  rw [flag]
  rfl

structure Known (contents : Contents) (layout : TableLayout) (headers : Headers) : Prop where
  base : headers.containerOffset = 0
  exeFs : headers.header.exeFsOffset = contents.exeFsStart
  sections : headers.sections = layout.sections
  plain : headers.crypto = none
  compressed : headers.extendedHeader.isCompressed = contents.compressesCode

theorem known (laid : Laid contents layout)
    (found : Headers.read keys (.regular contents) = .ok headers) : Known contents layout headers := by
  obtain ⟨located, -, ⟨data, extended, unlocked⟩, ⟨table, tabled, listed⟩⟩ := Headers.read_eq_ok.mp found
  obtain ⟨base, whole, header⟩ := laid.locate_eq located
  have exeFs : headers.header.exeFsOffset = contents.exeFsStart := by rw [header, exeFsOffset_read whole]
  rw [base, Nat.zero_add] at extended tabled
  obtain ⟨_, same, -, long, shown⟩ := Medium.readExact_eq_ok (by decide) extended
  obtain rfl := Medium.regular.inj same
  obtain ⟨_, same, -, listing, rfl⟩ := Medium.readExact_eq_ok (by decide) tabled
  obtain rfl := Medium.regular.inj same
  -- The identifiers agree as they stand in the file, so nothing is decrypted.
  rw [shown, header, Headers.unlock, if_pos (laid.programId_read long)] at unlocked
  obtain ⟨opened, unencrypted⟩ := Prod.mk.inj (Except.ok.inj unlocked)
  refine ⟨base, exeFs, ?_, unencrypted.symm, ?_⟩
  · rw [listed, ← unencrypted, Headers.tableOf]
    apply TableLayout.ofBytes_bytes
    · simp
      omega
    · rw [Contents.read_eq_slice, Bytes.slice_slice _ _ (by decide), Nat.add_zero, exeFs, laid.table]
  · rw [← opened, isCompressed_read]

end Laid

namespace Loader

section

variable {loader : Loader} {contents : Contents} {layout : TableLayout} {headers : Headers}
  {listed : ListedSection} {payload : Bytes}

theorem start_of_known (known : Laid.Known contents layout headers) :
    (loader.withHeaders headers).containerOffset + (loader.withHeaders headers).exeFsOffset +
      (listed.toSection.offset.toNat + SectionTable.size) = contents.sectionStart listed := by
  simp only [withHeaders, known.base, known.exeFs, ListedSection.toSection, Contents.sectionStart]
  omega

theorem storedSection_of_stores (known : Laid.Known contents layout headers)
    (stores : Stores contents listed payload) (name : String) :
    (loader.withHeaders headers).storedSection (.regular contents) name listed.toSection =
      .ok payload := by
  have size : listed.toSection.size.toNat = payload.length := stores.length.symm
  have below : contents.sectionStart listed < Medium.limit := by
    have bound := Headers.exeFsOffset_lt headers.header
    have within := listed.offset.toNat_lt
    rw [known.exeFs] at bound
    simp only [Contents.sectionStart, SectionTable.size, Medium.limit]
    omega
  have inside : ¬(Medium.regular contents).size < contents.sectionStart listed + payload.length :=
    Nat.not_lt.mpr stores.inside
  have reads := Medium.readExact_regular below stores.inside
  rw [Contents.read_eq_slice, stores.bytes] at reads
  have plain : (loader.withHeaders headers).crypto = none := known.plain
  simp only [storedSection, start_of_known known, size, if_neg inside, reads, decryptExeFs, plain]

theorem storedSection_of_past (known : Laid.Known contents layout headers)
    (past : contents.size < contents.sectionStart listed + listed.size.toNat) (name : String) :
    (loader.withHeaders headers).storedSection (.regular contents) name listed.toSection =
      .error (.invalidFormat (.sectionPastEnd name)) := by
  simp only [storedSection, start_of_known known]
  exact if_pos past

end

theorem after_eq_run (loader : Loader) (medium : Medium) (calls : List Call) :
    loader.after medium calls = (loader.run (calls.map fun call => (medium, .call call))).1 := by
  induction calls generalizing loader with
  | nil => rfl
  | cons call rest ih => exact ih _

theorem loadSection_after {loader loaded : Loader} {medium : Medium}
    (unloaded : loader.headersLoaded = false)
    (accepted : loader.loadHeaders medium = (loaded, .ok ())) (calls : List Call) (name : String) :
    ((loader.after medium calls).loadSection medium name).2 = loaded.sectionNamed medium name := by
  have ready : loaded.headersLoaded = true := by
    rw [headersLoaded, headersLoaded_of_loadHeaders unloaded accepted]
    rfl
  cases calls with
  | nil =>
      rw [after, loadSection, afterHeaders_of_loadHeaders unloaded accepted, afterHeaders_of_loaded ready]
  | cons call rest =>
      have same : loader.after medium (call :: rest) = loaded.after medium (call :: rest) := by
        rw [after, answer_of_loadHeaders unloaded accepted, after]
      obtain ⟨state, either, reached⟩ :=
        run_frozen ((call :: rest).map fun call => (medium, .call call)) ready
      rw [← after_eq_run] at reached
      have still : ({ loaded with state } : Loader).headersLoaded = true := by
        simpa [headersLoaded] using either
      have alike : Alike { loaded with state } loaded := ⟨rfl, rfl, rfl, rfl, rfl, rfl, rfl, rfl⟩
      rw [same, reached, loadSection, afterHeaders_of_loaded still, sectionNamed_of_alike alike]

/-- A loader gives out the bytes of a section under its name, decompressed if they are the code and marked
so, at any time; it refuses those that are not all in the file, and knows no other name. -/
theorem loadSection_of_laid {contents : Contents} {layout : TableLayout} (laid : Laid contents layout)
    {file : OpenFile} {path : HostPath} {keys : KeyProvider}
    (accepted : ((ofFile file path keys).loadHeaders (.regular contents)).2 = .ok ())
    (calls : List Call) :
    (∀ listed ∈ layout.listed, ∀ payload, Stores contents listed payload →
      (((ofFile file path keys).after (.regular contents) calls).loadSection (.regular contents)
          listed.name).2 =
        if listed.name = codeName ∧ contents.compressesCode then
          (Lzss.decompress payload).mapError .decompression
        else .ok payload) ∧
    (∀ listed ∈ layout.listed, contents.size < contents.sectionStart listed + listed.size.toNat →
      (((ofFile file path keys).after (.regular contents) calls).loadSection (.regular contents)
          listed.name).2 = .error (.invalidFormat (.sectionPastEnd listed.name))) ∧
    ∀ name, name ≠ "" → (∀ listed ∈ layout.listed, listed.name ≠ name) →
      (((ofFile file path keys).after (.regular contents) calls).loadSection (.regular contents)
          name).2 = .error (.notUsed name) := by
  cases loads : (ofFile file path keys).loadHeaders (.regular contents) with
  | mk loaded result =>
      rw [loads] at accepted
      obtain rfl : result = .ok () := accepted
      obtain ⟨headers, found, rfl⟩ := read_of_loadHeaders rfl loads
      have known := laid.known found
      have sections : ((ofFile file path keys).withHeaders headers).sections = layout.sections :=
        known.sections
      have compressed : ((ofFile file path keys).withHeaders headers).isCompressed =
          contents.compressesCode := known.compressed
      simp only [loadSection_after rfl loads, sectionNamed, sections, compressed]
      refine ⟨?_, ?_, ?_⟩
      · intro listed member payload stores
        simp only [TableLayout.find?_of_mem member, storedSection_of_stores known stores]
      · intro listed member past
        simp only [TableLayout.find?_of_mem member, storedSection_of_past known past]
      · intro name named absent
        simp only [TableLayout.find?_of_absent named absent]

def markedTitle : Contents :=
  codeTitle.write 0xA10 (Utf8.encode "icon" ++ [0, 0, 0, 0, 0, 0, 0, 0, 17, 0, 0, 0])

def codeEntry : ListedSection := ⟨".code", 0, 16, by decide, by decide +kernel, by decide +kernel⟩

def iconEntry : ListedSection := ⟨"icon", 0, 17, by decide, by decide +kernel, by decide +kernel⟩

def markedLayout : TableLayout :=
  ⟨[some codeEntry, some iconEntry, none, none, none, none, none, none], rfl, by decide⟩

def markedLoader : Loader :=
  (ofFile ⟨.file 0, false⟩ ⟨["title"]⟩ .zero).after (.regular markedTitle) [.part "logo"]

theorem loadSection_of_markedTitle :
    (markedLoader.loadSection (.regular markedTitle) ".code").2 = .ok (List.replicate 16 7) ∧
      (markedLoader.loadSection (.regular markedTitle) "icon").2 =
        .error (.invalidFormat (.sectionPastEnd "icon")) ∧
      (markedLoader.loadSection (.regular markedTitle) ".codes").2 = .error (.notUsed ".codes") := by
  have laid : Laid markedTitle markedLayout :=
    ⟨by decide +kernel, by decide +kernel, by decide +kernel⟩
  have accepted : ((ofFile ⟨.file 0, false⟩ ⟨["title"]⟩ .zero).loadHeaders
      (.regular markedTitle)).2 = .ok () := by decide +kernel
  have stores : Stores markedTitle codeEntry (List.replicate 16 7) :=
    ⟨rfl, by decide +kernel, by decide +kernel⟩
  have plain : markedTitle.compressesCode = false := by decide +kernel
  obtain ⟨stored, past, other⟩ := loadSection_of_laid laid accepted [.part "logo"]
  have code := stored codeEntry (by decide) _ stores
  rw [if_neg (by simp [plain])] at code
  exact ⟨code, past iconEntry (by decide) (by decide +kernel), other ".codes" (by decide) (by decide)⟩

end Loader

end GuestStorage
