import GuestStorage.Proofs.Loader.Calls
import GuestStorage.Proofs.Loader.Encryption

/-!
# Encryption does not show

Two runs are compared: one on a plain container, one on the same container encrypted. `Veiled` relates the
two files, and `unlocked` the two loaders: they differ in what they know of the encryption, and in nothing
else, before and after every call.
-/

namespace GuestStorage.Loader

def unlocked (loader : Loader) (crypto : ContainerCrypto) : Loader :=
  { loader with crypto := some crypto }

/-- A plain container that the loader has read, and the encrypted one. -/
structure Veiled (loader : Loader) (crypto : ContainerCrypto) (plain encrypted : Contents) :
    Prop where
  unencrypted : loader.crypto = none
  derived : cryptoOf loader.header = .ok crypto
  separate : loader.Separate
  bytes : encrypted.toBytes = Veil.encrypt (loader.veils crypto) plain

theorem cryptoOf_of_version {header : ContainerHeader} (version : header.version ≤ 2) :
    ∃ crypto, cryptoOf header = .ok crypto := by
  have known : header.version = 0 ∨ header.version = 1 ∨ header.version = 2 := by
    rw [← UInt16.toNat_inj, ← UInt16.toNat_inj, ← UInt16.toNat_inj]
    have bound := UInt16.le_iff_toNat_le.mp version
    simp only [UInt16.reduceToNat] at bound ⊢
    omega
  rcases known with zero | one | two
  · exact ⟨_, by rw [cryptoOf, zero]; rfl⟩
  · exact ⟨_, by rw [cryptoOf, one]; rfl⟩
  · exact ⟨_, by rw [cryptoOf, two]; rfl⟩

theorem usesSecondKey_of_cryptoOf {header : ContainerHeader} {crypto : ContainerCrypto}
    (derived : cryptoOf header = .ok crypto) : crypto.usesSecondKey = header.usesSecondKey := by
  simp only [cryptoOf] at derived
  split at derived
  · contradiction
  · obtain rfl := Except.ok.inj derived
    rfl

theorem encode_inj {left right : String} (same : Utf8.encode left = Utf8.encode right) :
    left = right := by
  have data := Array.toList_inj.mp same
  exact String.toByteArray_inj.mp (ByteArray.ext data)

section

variable {loader : Loader} {crypto : ContainerCrypto} {plain encrypted : Contents}

theorem sectionSlot_unlocked (veiled : loader.Veiled crypto plain encrypted) {name : String}
    {entry : Section} (named : entry.name = Utf8.encode name) :
    (loader.unlocked crypto).sectionSlot name = loader.veilSlot entry := by
  have code : entry.name = Utf8.encode codeName ↔ name = codeName := by
    rw [named]
    exact ⟨encode_inj, congrArg _⟩
  simp only [sectionSlot, veilSlot, unlocked, Option.any_some, code,
    usesSecondKey_of_cryptoOf veiled.derived]

theorem storedSection_unlocked (veiled : loader.Veiled crypto plain encrypted) {name : String}
    {entry : Section} (listed : entry ∈ loader.sections) (named : entry.name = Utf8.encode name) :
    (loader.unlocked crypto).storedSection (.regular encrypted) name entry =
      loader.storedSection (.regular plain) name entry := by
  have member : loader.sectionVeil crypto entry ∈ loader.veils crypto :=
    List.mem_cons_of_mem _ (List.mem_cons_of_mem _ (List.mem_map_of_mem listed))
  have reads := Veil.readExact_veiled veiled.bytes (veiled.separate.pairwise crypto) member
  have slot := sectionSlot_unlocked veiled named
  have size : (Medium.regular encrypted).size = (Medium.regular plain).size :=
    Veil.size_of_encrypt veiled.bytes
  have base : (loader.unlocked crypto).containerOffset = loader.containerOffset := rfl
  have region : (loader.unlocked crypto).exeFsOffset = loader.exeFsOffset := rfl
  have decrypts (data : Bytes) : (loader.unlocked crypto).decryptExeFs (loader.veilSlot entry)
      (entry.offset.toNat + SectionTable.size) data =
      (loader.sectionVeil crypto entry).context.applyKeystream
        (entry.offset.toNat + SectionTable.size) data := rfl
  simp only [sectionVeil, sectionExtent] at reads decrypts
  simp only [storedSection, size, base, region, slot, decrypts, ← reads]
  by_cases past : (Medium.regular plain).size < loader.containerOffset + loader.exeFsOffset +
      (entry.offset.toNat + SectionTable.size) + entry.size.toNat
  · simp only [if_pos past]
  · simp only [if_neg past]
    cases (Medium.regular encrypted).readExact (loader.containerOffset + loader.exeFsOffset +
        (entry.offset.toNat + SectionTable.size)) entry.size.toNat with
    | error cause => rfl
    | ok data => simp only [Except.map, decryptExeFs, veiled.unencrypted]

theorem sectionNamed_unlocked (veiled : loader.Veiled crypto plain encrypted) (name : String) :
    (loader.unlocked crypto).sectionNamed (.regular encrypted) name =
      loader.sectionNamed (.regular plain) name := by
  have sections : (loader.unlocked crypto).sections = loader.sections := rfl
  rw [sectionNamed, sectionNamed, sections]
  cases found : loader.sections.find? name with
  | none => rfl
  | some entry =>
      have listed := List.mem_of_find?_eq_some found
      have named : entry.name = Utf8.encode name := by
        rw [SectionTable.find?] at found
        have chosen := List.find?_some found
        exact of_decide_eq_true chosen
      simp only [storedSection_unlocked veiled listed named]
      rfl

theorem programImage_unlocked (veiled : loader.Veiled crypto plain encrypted) :
    (loader.unlocked crypto).programImage (.regular encrypted) =
      loader.programImage (.regular plain) := by
  rw [programImage, programImage, sectionNamed_unlocked veiled]
  rfl

theorem Veiled.withState (veiled : loader.Veiled crypto plain encrypted) (state : LoaderState) :
    Veiled { loader with state } crypto plain encrypted :=
  ⟨veiled.unencrypted, veiled.derived, ⟨veiled.separate.apart, veiled.separate.clear⟩,
    veiled.bytes⟩

theorem answer_unlocked (veiled : loader.Veiled crypto plain encrypted)
    (ready : loader.headersLoaded = true) {call : Call} (allowed : call ≠ .romFs) :
    ∃ next reply, loader.answer (.regular plain) call = (next, reply) ∧
      (loader.unlocked crypto).answer (.regular encrypted) call = (next.unlocked crypto, reply) ∧
      next.Veiled crypto plain encrypted ∧ next.headersLoaded = true := by
  have opened : (loader.unlocked crypto).headersLoaded = true := ready
  cases call with
  | headers =>
      refine ⟨loader, .headers (.ok ()), ?_, ?_, veiled, ready⟩
      · rw [answer, loadHeaders, if_pos ready]
        rfl
      · rw [answer, loadHeaders, if_pos opened]
        rfl
  | part name =>
      refine ⟨loader, .part (loader.sectionNamed (.regular plain) name), ?_, ?_, veiled, ready⟩
      · rw [answer, loadSection, afterHeaders_of_loaded ready]
        rfl
      · rw [answer, loadSection, afterHeaders_of_loaded opened, sectionNamed_unlocked veiled]
        rfl
  | romFs => exact absurd rfl allowed
  | program =>
      have state : (loader.unlocked crypto).state = loader.state := rfl
      by_cases finished : loader.state = .loaded
      · refine ⟨loader, .program (.error .alreadyLoaded), ?_, ?_, veiled, ready⟩
        · rw [answer, load, if_pos finished]
          rfl
        · rw [answer, load, state, if_pos finished]
          rfl
      · have image := programImage_unlocked veiled
        cases loads : loader.programImage (.regular plain) with
        | error cause =>
            rw [loads] at image
            refine ⟨loader, .program (.error cause), ?_, ?_, veiled, ready⟩
            · simp only [answer, load, if_neg finished, afterHeaders_of_loaded ready, loads]
              rfl
            · simp only [answer, load, state, if_neg finished, afterHeaders_of_loaded opened, image]
              rfl
        | ok program =>
            rw [loads] at image
            refine ⟨{ loader with state := .loaded }, .program (.ok program), ?_, ?_,
              veiled.withState .loaded, rfl⟩
            · simp only [answer, load, if_neg finished, afterHeaders_of_loaded ready, loads]
              rfl
            · simp only [answer, load, state, if_neg finished, afterHeaders_of_loaded opened, image]
              rfl

theorem answers_unlocked {calls : List Call} (veiled : loader.Veiled crypto plain encrypted)
    (ready : loader.headersLoaded = true) (allowed : Call.romFs ∉ calls) :
    (loader.unlocked crypto).answers (.regular encrypted) calls =
      loader.answers (.regular plain) calls := by
  induction calls generalizing loader with
  | nil => rfl
  | cons call rest ih =>
      rw [List.mem_cons, not_or] at allowed
      obtain ⟨other, later⟩ := allowed
      obtain ⟨next, reply, left, right, kept, still⟩ :=
        answer_unlocked veiled ready (Ne.symm other)
      simp only [answers, left, right, ih kept still later]

theorem unlock_eq_plain {keys : KeyProvider} {header : ContainerHeader} {data : Bytes}
    {extendedHeader : ExtendedHeader}
    (unlocks : Headers.unlock keys header data = .ok (extendedHeader, none)) :
    extendedHeader = .ofBytes data ∧ extendedHeader.programId = header.programId := by
  by_cases agrees : (ExtendedHeader.ofBytes data).programId = header.programId
  · simp only [Headers.unlock, if_pos agrees, Except.ok.injEq, Prod.mk.injEq, and_true] at unlocks
    exact ⟨unlocks.symm, unlocks ▸ agrees⟩
  · cases derived : cryptoOf header with
    | error cause => simp [Headers.unlock, agrees, derived] at unlocks
    | ok crypto =>
        simp only [Headers.unlock, if_neg agrees, derived] at unlocks
        split at unlocks
        · cases unlocks
        · cases unlocks

theorem stand_unlocked {headers : Headers}
    (stand : Headers.Stand loader.keys (.regular plain) headers)
    (veiled : Veiled (loader.withHeaders headers) crypto plain encrypted)
    (hidden : (ExtendedHeader.ofBytes (encrypted.read
      (headers.containerOffset + ContainerHeader.size) ExtendedHeader.size)).programId ≠
        headers.header.programId) :
    Headers.Stand loader.keys (.regular encrypted) { headers with crypto := some crypto } := by
  have apart := veiled.separate.pairwise crypto
  have unencrypted : headers.crypto = none := veiled.unencrypted
  obtain ⟨located, magic, ⟨data, stored, unlocks⟩, ⟨table, tabled, listed⟩⟩ := stand
  rw [unencrypted] at unlocks listed
  obtain ⟨opened, agrees⟩ := unlock_eq_plain unlocks
  refine ⟨?_, magic, ?_, ?_⟩
  · apply Headers.locate_congr located
    · exact Veil.readExact_unveiled veiled.bytes
        (veiled.separate.unveiled crypto List.mem_cons_self)
    · exact Veil.readExact_unveiled veiled.bytes
        (veiled.separate.unveiled crypto (List.mem_cons_of_mem _ List.mem_cons_self))
  · obtain ⟨raw, reads, decrypts⟩ : ∃ raw,
        (Medium.regular encrypted).readExact (headers.containerOffset + ContainerHeader.size)
          ExtendedHeader.size = .ok raw ∧
        (loader.regionContext crypto .first crypto.counters.extendedHeader).applyKeystream 0 raw =
          data :=
      Veil.readExact_of_veiled veiled.bytes apart List.mem_cons_self stored
    obtain ⟨contents, same, -, -, shown⟩ := Medium.readExact_eq_ok (by decide) reads
    obtain rfl := Medium.regular.inj same
    rw [← shown] at hidden
    refine ⟨raw, reads, ?_⟩
    have derived : cryptoOf headers.header = .ok crypto := veiled.derived
    rw [regionContext] at decrypts
    simp only [Headers.unlock, if_neg hidden, derived, decrypts, ← opened, if_pos agrees]
  · obtain ⟨raw, reads, decrypts⟩ : ∃ raw,
        (Medium.regular encrypted).readExact
          (headers.containerOffset + headers.header.exeFsOffset) SectionTable.size = .ok raw ∧
        (loader.regionContext crypto .first crypto.counters.exeFs).applyKeystream 0 raw = table :=
      Veil.readExact_of_veiled veiled.bytes apart (List.mem_cons_of_mem _ List.mem_cons_self) tabled
    refine ⟨raw, reads, ?_⟩
    rw [regionContext] at decrypts
    simp only [listed, Headers.tableOf, decrypts]

end

/-- An encrypted container is read like the plain one, and no answer tells them apart. Where a RomFS stands
is answered with the context that decrypts it, so that question is left out. -/
theorem answers_of_encrypted {loader loaded : Loader} {plain : Contents}
    (unloaded : loader.headersLoaded = false)
    (accepted : loader.loadHeaders (.regular plain) = (loaded, .ok ()))
    (unencrypted : loaded.isEncrypted = false) (version : loaded.header.version ≤ 2)
    (separate : loaded.Separate) :
    ∃ crypto, cryptoOf loaded.header = .ok crypto ∧ ∀ encrypted : Contents,
      encrypted.toBytes = Veil.encrypt (loaded.veils crypto) plain →
      (ExtendedHeader.ofBytes (encrypted.read (loaded.containerOffset + ContainerHeader.size)
        ExtendedHeader.size)).programId ≠ loaded.header.programId →
      loader.loadHeaders (.regular encrypted) = (loaded.unlocked crypto, .ok ()) ∧
      ∀ calls, Call.romFs ∉ calls →
        loader.answers (.regular encrypted) calls = loader.answers (.regular plain) calls := by
  obtain ⟨headers, found, rfl⟩ := read_of_loadHeaders unloaded accepted
  obtain ⟨crypto, derived⟩ := cryptoOf_of_version version
  refine ⟨crypto, derived, ?_⟩
  intro encrypted bytes hidden
  have veiled : Veiled (loader.withHeaders headers) crypto plain encrypted :=
    ⟨Option.isSome_eq_false_iff.mp unencrypted |> Option.isNone_iff_eq_none.mp, derived, separate,
      bytes⟩
  have stand := stand_unlocked (Headers.read_eq_ok.mp found) veiled hidden
  have loads : loader.loadHeaders (.regular encrypted) =
      ((loader.withHeaders headers).unlocked crypto, .ok ()) :=
    loadHeaders_of_read unloaded (Headers.read_eq_ok.mpr stand)
  refine ⟨loads, ?_⟩
  intro calls allowed
  -- From here on both loaders have their headers, and the runs go in step.
  rw [answers_of_loadHeaders unloaded loads, answers_of_loadHeaders unloaded accepted]
  exact answers_unlocked veiled rfl allowed

def iconTitle : Contents :=
  ((((Contents.empty.resize 0xC10).write 0x100 ContainerHeader.containerMagic).write 0x1A0
    [5, 0, 0, 0]).write 0xA00 (Utf8.encode "icon" ++ [0, 0, 0, 0, 0, 0, 0, 0, 16, 0, 0, 0])).write
    0xC00 (List.replicate 16 7)

def iconLoader : Loader := .ofFile ⟨.file 0, false⟩ ⟨["title"]⟩ .zero

def headedIcon : Loader := (iconLoader.loadHeaders (.regular iconTitle)).1

def iconCrypto : ContainerCrypto :=
  ⟨List.replicate 16 0, false, false,
    ⟨RegionCounters.tagged [] 1, RegionCounters.tagged [] 2, RegionCounters.tagged [] 3⟩⟩

def encryptedIcon : Contents := .ofBytes (Veil.encrypt (headedIcon.veils iconCrypto) iconTitle)

theorem programId_toUInt8 (data : Bytes) : (ExtendedHeader.ofBytes data).programId.toUInt8 =
    Bytes.byteAt (Bytes.fit ExtendedHeader.size data) 0x200 := by
  have long : 0x200 < (Bytes.fit ExtendedHeader.size data).length := by
    simp [ExtendedHeader.size]
  simp only [ExtendedHeader.ofBytes, Bytes.word64, Bytes.slice, Bytes.byteAt]
  rw [List.drop_eq_getElem_cons long, List.take_succ_cons, Bytes.toNatLE,
    List.getD_eq_getElem?_getD, List.getElem?_eq_getElem long]
  apply UInt8.toNat_inj.mp
  simp

theorem answers_of_encryptedIcon :
    iconLoader.answers (.regular encryptedIcon) [.part "icon"] =
      [.part (.ok (List.replicate 16 7))] := by
  have accepts : (iconLoader.loadHeaders (.regular iconTitle)).2 = .ok () := by decide +kernel
  have accepted : iconLoader.loadHeaders (.regular iconTitle) = (headedIcon, .ok ()) := by
    rw [← accepts, headedIcon]
  have separate : headedIcon.Separate := ⟨by decide +kernel, by decide +kernel⟩
  obtain ⟨crypto, derived, transparent⟩ := answers_of_encrypted rfl accepted (by decide +kernel)
    (by decide +kernel) separate
  have known : cryptoOf headedIcon.header = .ok iconCrypto := by decide +kernel
  obtain rfl := Except.ok.inj (known.symm.trans derived)
  have hidden : (ExtendedHeader.ofBytes (encryptedIcon.read
      (headedIcon.containerOffset + ContainerHeader.size) ExtendedHeader.size)).programId ≠
        headedIcon.header.programId := by
    intro agrees
    have low := congrArg UInt64.toUInt8 agrees
    rw [programId_toUInt8, Contents.fit_read] at low
    revert low
    decide +kernel
  have same := (transparent encryptedIcon (Contents.toBytes_ofBytes _) hidden).2 [.part "icon"]
    (by decide)
  have stored : (iconLoader.loadSection (.regular iconTitle) "icon").2 =
      .ok (List.replicate 16 7) := by decide +kernel
  rw [same]
  simp only [answers, answer, Prod.map_snd, stored]

end GuestStorage.Loader
