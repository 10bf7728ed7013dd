import GuestStorage.Container.Loader
import GuestStorage.Proofs.Host.Media

/-!
# What loading the headers finds

`Headers.read` says what the headers of a container are, as a function of the file and the keys alone.
`loadHeaders_eq` says that a loader which has no headers yet gets just these, whatever earlier attempts
left behind in it, and `Headers.read_eq_ok` what then stands in the file.
-/

namespace GuestStorage

structure Headers where
  containerOffset : Nat
  header : ContainerHeader
  extendedHeader : ExtendedHeader
  sections : SectionTable
  crypto : Option ContainerCrypto

namespace Headers

def locate (medium : Medium) : Except LoaderError (Nat × ContainerHeader) :=
  match medium.readExact 0 ContainerHeader.size with
  | .error cause => .error (.io cause)
  | .ok data =>
    if (ContainerHeader.ofBytes data).magic ≠ ContainerHeader.cardMagic then
      .ok (0, .ofBytes data)
    else
      match medium.readExact firstPartition ContainerHeader.size with
      | .error cause => .error (.io cause)
      | .ok data => .ok (firstPartition, .ofBytes data)

/-- The extended header that the bytes are, or that they decrypt to. -/
def unlock (keys : KeyProvider) (header : ContainerHeader) (data : Bytes) :
    Except LoaderError (ExtendedHeader × Option ContainerCrypto) :=
  if (ExtendedHeader.ofBytes data).programId = header.programId then .ok (.ofBytes data, none)
  else
    match Loader.cryptoOf header with
    | .error cause => .error cause
    | .ok crypto =>
      let context := CounterContext.ofKey (keys .first crypto.keyY) crypto.counters.extendedHeader
      let decrypted := ExtendedHeader.ofBytes (context.applyKeystream 0 data)
      if decrypted.programId = header.programId then .ok (decrypted, some crypto)
      else .error .encrypted

def tableOf (keys : KeyProvider) (crypto : Option ContainerCrypto) (data : Bytes) : SectionTable :=
  match crypto with
  | none => .ofBytes data
  | some crypto =>
    .ofBytes ((CounterContext.ofKey (keys .first crypto.keyY) crypto.counters.exeFs).applyKeystream
      0 data)

def read (keys : KeyProvider) (medium : Medium) : Except LoaderError Headers :=
  match locate medium with
  | .error cause => .error cause
  | .ok (base, header) =>
    if header.magic ≠ ContainerHeader.containerMagic then
      .error (.invalidFormat (.badMagic header.magic))
    else
      match medium.readExact (base + ContainerHeader.size) ExtendedHeader.size with
      | .error cause => .error (.io cause)
      | .ok data =>
        match unlock keys header data with
        | .error cause => .error cause
        | .ok (extendedHeader, crypto) =>
          match medium.readExact (base + header.exeFsOffset) SectionTable.size with
          | .error cause => .error (.io cause)
          | .ok data => .ok ⟨base, header, extendedHeader, tableOf keys crypto data, crypto⟩

structure Stand (keys : KeyProvider) (medium : Medium) (headers : Headers) : Prop where
  located : locate medium = .ok (headers.containerOffset, headers.header)
  magic : headers.header.magic = ContainerHeader.containerMagic
  unlocked : ∃ data,
    medium.readExact (headers.containerOffset + ContainerHeader.size) ExtendedHeader.size =
      .ok data ∧ unlock keys headers.header data = .ok (headers.extendedHeader, headers.crypto)
  listed : ∃ data,
    medium.readExact (headers.containerOffset + headers.header.exeFsOffset) SectionTable.size =
      .ok data ∧ headers.sections = tableOf keys headers.crypto data

theorem read_eq_ok {keys : KeyProvider} {medium : Medium} {headers : Headers} :
    read keys medium = .ok headers ↔ Stand keys medium headers := by
  constructor
  · intro found
    cases located : locate medium with
    | error cause => simp [read, located] at found
    | ok place =>
        obtain ⟨base, header⟩ := place
        by_cases magic : header.magic = ContainerHeader.containerMagic
        · cases stored : medium.readExact (base + ContainerHeader.size) ExtendedHeader.size with
          | error cause => simp [read, located, magic, stored] at found
          | ok data =>
              cases unlocked : unlock keys header data with
              | error cause => simp [read, located, magic, stored, unlocked] at found
              | ok opened =>
                  cases table : medium.readExact (base + header.exeFsOffset)
                      SectionTable.size with
                  | error cause => simp [read, located, magic, stored, unlocked, table] at found
                  | ok bytes =>
                      simp only [read, located, magic, stored, unlocked, table, ne_eq,
                        not_true_eq_false, if_false] at found
                      obtain rfl := Except.ok.inj found
                      exact ⟨located, magic, ⟨data, stored, unlocked⟩, ⟨bytes, table, rfl⟩⟩
        · simp [read, located, magic] at found
  · rintro ⟨located, magic, ⟨data, stored, unlocked⟩, ⟨bytes, table, listed⟩⟩
    simp only [read, located, magic, stored, unlocked, table, ← listed, ne_eq, not_true_eq_false,
      if_false]

theorem magic_read {contents : Contents} (whole : ContainerHeader.size ≤ contents.size) :
    (ContainerHeader.ofBytes (contents.read 0 ContainerHeader.size)).magic =
      Bytes.slice contents.toBytes 0x100 4 :=
  (Contents.slice_fit_read (by rwa [Nat.zero_add]) (by decide)).trans (by rw [Nat.zero_add])

theorem exeFsOffset_lt (header : ContainerHeader) : header.exeFsOffset < 0x20000000000 := by
  have bound := header.exeFs.offset.toNat_lt
  rw [ContainerHeader.exeFsOffset, mediaUnit]
  omega

theorem base_of_locate {medium : Medium} {base : Nat} {header : ContainerHeader}
    (located : locate medium = .ok (base, header)) :
    ∃ contents, medium = .regular contents ∧ (base = 0 ∨ base = firstPartition) := by
  cases first : medium.readExact 0 ContainerHeader.size with
  | error cause => simp [locate, first] at located
  | ok data =>
      obtain ⟨contents, rfl, -, -, -⟩ := Medium.readExact_eq_ok (by decide) first
      refine ⟨contents, rfl, ?_⟩
      by_cases card : (ContainerHeader.ofBytes data).magic = ContainerHeader.cardMagic
      · cases second : (Medium.regular contents).readExact firstPartition
            ContainerHeader.size with
        | error cause => simp [locate, first, card, second] at located
        | ok partition =>
            simp only [locate, first, card, second, ne_eq, not_true_eq_false, if_false,
              Except.ok.injEq, Prod.mk.injEq] at located
            exact .inr located.1.symm
      · simp only [locate, first, card, ne_eq, not_false_eq_true, if_true, Except.ok.injEq,
          Prod.mk.injEq] at located
        exact .inl located.1.symm

theorem locate_eq_ok {medium : Medium} {base : Nat} {header : ContainerHeader}
    (located : locate medium = .ok (base, header)) :
    ∃ contents, medium = .regular contents ∧ base ≤ firstPartition := by
  obtain ⟨contents, regular, rfl | rfl⟩ := base_of_locate located
  · exact ⟨contents, regular, Nat.zero_le firstPartition⟩
  · exact ⟨contents, regular, Nat.le_refl firstPartition⟩

theorem locate_congr {medium other : Medium} {base : Nat} {header : ContainerHeader}
    (located : locate medium = .ok (base, header))
    (first : other.readExact 0 ContainerHeader.size = medium.readExact 0 ContainerHeader.size)
    (second : other.readExact base ContainerHeader.size =
      medium.readExact base ContainerHeader.size) :
    locate other = .ok (base, header) := by
  rw [← located, locate, first, locate]
  cases stored : medium.readExact 0 ContainerHeader.size with
  | error cause => rfl
  | ok data =>
      by_cases card : (ContainerHeader.ofBytes data).magic = ContainerHeader.cardMagic
      · have place : base = firstPartition := by
          cases partition : medium.readExact firstPartition ContainerHeader.size with
          | error cause => simp [locate, stored, card, partition] at located
          | ok bytes =>
              simp only [locate, stored, card, partition, ne_eq, not_true_eq_false, if_false,
                Except.ok.injEq, Prod.mk.injEq] at located
              exact located.1.symm
        rw [place] at second
        simp only [second]
      · simp only [ne_eq, card, not_false_eq_true, if_true]

end Headers

namespace Loader

def withHeaders (loader : Loader) (headers : Headers) : Loader :=
  { loader with
    state := .headersLoaded
    containerOffset := headers.containerOffset
    exeFsOffset := headers.header.exeFsOffset
    header := headers.header
    extendedHeader := some headers.extendedHeader
    sections := headers.sections
    crypto := headers.crypto }

theorem readHeader_eq {loader : Loader} (start : loader.containerOffset = 0) (medium : Medium) :
    match Headers.locate medium with
    | .error cause => ∃ left, loader.readHeader medium = (left, .error cause)
    | .ok (base, header) =>
      loader.readHeader medium = ({ loader with containerOffset := base, header }, .ok ()) := by
  cases first : medium.readExact 0 ContainerHeader.size with
  | error cause => simp [Headers.locate, readHeader, first]
  | ok data =>
      by_cases card : (ContainerHeader.ofBytes data).magic = ContainerHeader.cardMagic
      · cases second : medium.readExact firstPartition ContainerHeader.size with
        | error cause => simp [Headers.locate, readHeader, first, card, second]
        | ok partition => simp [Headers.locate, readHeader, first, card, second]
      · simp [Headers.locate, readHeader, first, card, start]

theorem readExtendedHeader_eq {loader : Loader} {medium : Medium} {data : Bytes}
    (start : loader.crypto = none) (magic : loader.header.magic = ContainerHeader.containerMagic)
    (stored : medium.readExact (loader.containerOffset + ContainerHeader.size)
      ExtendedHeader.size = .ok data) :
    match Headers.unlock loader.keys loader.header data with
    | .error cause => ∃ left, loader.readExtendedHeader medium = (left, .error cause)
    | .ok (extendedHeader, crypto) =>
      loader.readExtendedHeader medium = ({ loader with crypto }, .ok extendedHeader) := by
  by_cases plain : (ExtendedHeader.ofBytes data).programId = loader.header.programId
  · simp [Headers.unlock, readExtendedHeader, magic, stored, programId, plain, ← start]
  · cases derived : cryptoOf loader.header with
    | error cause =>
        simp [Headers.unlock, readExtendedHeader, magic, stored, programId, plain, derived]
    | ok crypto =>
        let context := CounterContext.ofKey (loader.keys .first crypto.keyY)
          crypto.counters.extendedHeader
        by_cases same : (ExtendedHeader.ofBytes (context.applyKeystream 0 data)).programId =
            loader.header.programId
        · simp [Headers.unlock, readExtendedHeader, magic, stored, programId, plain, derived,
            regionContext, context, same]
        · simp [Headers.unlock, readExtendedHeader, magic, stored, programId, plain, derived,
            regionContext, context, same]

theorem readSections_eq (loader : Loader) (medium : Medium) :
    match medium.readExact (loader.containerOffset + loader.header.exeFsOffset)
      SectionTable.size with
    | .error cause => ∃ left, loader.readSections medium = (left, .error (.io cause))
    | .ok data => loader.readSections medium =
        ({ loader with
            exeFsOffset := loader.header.exeFsOffset
            sections := Headers.tableOf loader.keys loader.crypto data }, .ok ()) := by
  cases stored : medium.readExact (loader.containerOffset + loader.header.exeFsOffset)
      SectionTable.size with
  | error cause => simp [readSections, stored]
  | ok data =>
      simp only [readSections, stored, decryptExeFs, Headers.tableOf]
      cases loader.crypto <;> rfl

theorem readHeaders_eq {loader : Loader} (start : loader.containerOffset = 0)
    (locked : loader.crypto = none) (medium : Medium) :
    match Headers.read loader.keys medium with
    | .error cause => ∃ left, loader.readHeaders medium = (left, .error cause)
    | .ok headers => loader.readHeaders medium =
        ({ loader.withHeaders headers with state := loader.state }, .ok ()) := by
  have first := readHeader_eq start medium
  cases located : Headers.locate medium with
  | error cause =>
      rw [located] at first
      obtain ⟨left, fails⟩ := first
      simp [Headers.read, readHeaders, located, fails]
  | ok place =>
      obtain ⟨base, header⟩ := place
      rw [located] at first
      simp only [readHeaders, first]
      by_cases magic : header.magic = ContainerHeader.containerMagic
      · cases stored : medium.readExact (base + ContainerHeader.size) ExtendedHeader.size with
        | error cause => simp [Headers.read, located, magic, stored, readExtendedHeader]
        | ok data =>
            have second := readExtendedHeader_eq
              (show ({ loader with containerOffset := base, header } : Loader).crypto = none
                from locked) magic stored
            cases unlocked : Headers.unlock loader.keys header data with
            | error cause =>
                rw [unlocked] at second
                obtain ⟨left, fails⟩ := second
                simp [Headers.read, located, magic, stored, unlocked, fails]
            | ok opened =>
                obtain ⟨extendedHeader, crypto⟩ := opened
                rw [unlocked] at second
                simp only [second]
                have third := readSections_eq
                  { loader with containerOffset := base, header, crypto } medium
                cases table : medium.readExact (base + header.exeFsOffset) SectionTable.size with
                | error cause =>
                    rw [table] at third
                    obtain ⟨left, fails⟩ := third
                    simp [Headers.read, located, magic, stored, unlocked, table, fails]
                | ok bytes =>
                    rw [table] at third
                    simp [Headers.read, located, magic, stored, unlocked, table, third, withHeaders]
      · simp [Headers.read, located, magic, readExtendedHeader]

theorem loadHeaders_eq {loader : Loader} (unloaded : loader.headersLoaded = false)
    (medium : Medium) :
    match Headers.read loader.keys medium with
    | .error cause => ∃ left : Loader,
        left.state = .error ∧ loader.loadHeaders medium = (left, .error cause)
    | .ok headers => loader.loadHeaders medium = (loader.withHeaders headers, .ok ()) := by
  have reads := readHeaders_eq (show loader.reset.containerOffset = 0 from rfl) rfl medium
  cases found : Headers.read loader.keys medium with
  | error cause =>
      rw [show loader.reset.keys = loader.keys from rfl, found] at reads
      obtain ⟨left, fails⟩ := reads
      simp [loadHeaders, unloaded, fails]
  | ok headers =>
      rw [show loader.reset.keys = loader.keys from rfl, found] at reads
      simp only [loadHeaders, unloaded, Bool.false_eq_true, if_false, reads]
      rfl

theorem loadHeaders_of_read {loader : Loader} {medium : Medium} {headers : Headers}
    (unloaded : loader.headersLoaded = false)
    (found : Headers.read loader.keys medium = .ok headers) :
    loader.loadHeaders medium = (loader.withHeaders headers, .ok ()) := by
  have loads := loadHeaders_eq unloaded medium
  rwa [found] at loads

theorem read_of_loadHeaders {loader loaded : Loader} {medium : Medium}
    (unloaded : loader.headersLoaded = false)
    (succeeds : loader.loadHeaders medium = (loaded, .ok ())) :
    ∃ headers, Headers.read loader.keys medium = .ok headers ∧
      loaded = loader.withHeaders headers := by
  have loads := loadHeaders_eq unloaded medium
  cases found : Headers.read loader.keys medium with
  | error cause =>
      rw [found] at loads
      obtain ⟨left, -, fails⟩ := loads
      rw [fails] at succeeds
      cases succeeds
  | ok headers =>
      rw [found] at loads
      rw [loads] at succeeds
      cases succeeds
      exact ⟨headers, rfl, rfl⟩

theorem afterHeaders_of_loaded {α : Type} {loader : Loader} (loaded : loader.headersLoaded = true)
    (medium : Medium) (ask : Loader → Except LoaderError α) :
    loader.afterHeaders medium ask = (loader, ask loader) := by
  rw [afterHeaders, loadHeaders, if_pos loaded]

theorem afterHeaders_eq_ok {α : Type} {loader loaded : Loader} {medium : Medium}
    {ask : Loader → Except LoaderError α} {answer : α} (unloaded : loader.headersLoaded = false)
    (succeeds : loader.afterHeaders medium ask = (loaded, .ok answer)) :
    ∃ headers, Headers.read loader.keys medium = .ok headers ∧
      loaded = loader.withHeaders headers ∧ ask loaded = .ok answer := by
  cases loads : loader.loadHeaders medium with
  | mk next result =>
      cases result with
      | error cause => simp [afterHeaders, loads] at succeeds
      | ok done =>
          obtain ⟨headers, found, rfl⟩ := read_of_loadHeaders unloaded loads
          simp only [afterHeaders, loads, Prod.mk.injEq] at succeeds
          obtain ⟨rfl, answered⟩ := succeeds
          exact ⟨headers, found, rfl, answered⟩

end Loader

end GuestStorage
