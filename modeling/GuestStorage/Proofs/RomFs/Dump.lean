import GuestStorage.CommandLine.Run
import GuestStorage.Proofs.Host.FileCreation
import GuestStorage.Proofs.Loader.Headers
import GuestStorage.Proofs.RomFs.CachedReads

/-!
# Dumping a RomFS

The command is followed from the headers of the container to the file it leaves. The image that the loader
locates lies inside the container, so no read is refused and none comes back empty; the copy then keeps
one invariant: the target holds what was decrypted so far, and the cache of the source is faithful.
-/

namespace GuestStorage

namespace Loader

def romFsRegion (loader : Loader) : CounterContext :=
  match loader.crypto with
  | none => .plain
  | some crypto =>
    let slot := if crypto.usesSecondKey then .second else .first
    loader.regionContext crypto slot crypto.counters.romFs

@[simp] theorem mask_romFsContext (loader : Loader) (position : Nat) :
    loader.romFsContext.mask position = loader.romFsRegion.mask (romFsHeaderSize + position) := by
  cases locked : loader.crypto with
  | none => simp only [romFsContext, romFsRegion, locked, CounterContext.mask, CounterContext.plain,
      Bool.false_eq_true, if_false]
  | some crypto =>
      simp only [romFsContext, romFsRegion, locked, CounterContext.mask_advanced]
      rfl

def dumpByte (loader : Loader) (contents : Contents) (index : Nat) : UInt8 :=
  contents.byteAt (loader.containerOffset + loader.header.romFs.offset.toNat * mediaUnit +
    (romFsHeaderSize + index)) ^^^ loader.romFsRegion.mask (romFsHeaderSize + index)

structure Covers (loader : Loader) (image : RomFsImage) (contents : Contents) : Prop where
  path : image.path = loader.path
  size : image.size.toNat + romFsHeaderSize = loader.header.romFs.size.toNat * mediaUnit
  inside : image.offset.toNat + image.size.toNat ≤ contents.size
  addressable : image.offset.toNat + image.size.toNat < Medium.limit
  bytes : image.plainByte contents = loader.dumpByte contents

theorem romFsImage_eq_ok {loader : Loader} {contents : Contents} {image : RomFsImage}
    (placed : loader.containerOffset ≤ firstPartition)
    (located : loader.romFsImage (.regular contents) = .ok image) :
    loader.Covers image contents := by
  by_cases unused : loader.header.romFs.offset = 0 ∨ loader.header.romFs.size = 0
  · simp only [romFsImage, if_pos unused] at located
    cases located
  by_cases whole : loader.header.romFs.size.toNat * mediaUnit < romFsHeaderSize
  · simp only [romFsImage, if_neg unused, if_pos whole] at located
    cases located
  simp only [romFsImage, if_neg unused, if_neg whole] at located
  split at located
  · cases located
  · rename_i stored
    obtain rfl := Except.ok.inj located
    have start := loader.header.romFs.offset.toNat_lt
    have extent := loader.header.romFs.size.toNat_lt
    simp only [firstPartition] at placed
    have offset : (UInt64.ofNat (loader.containerOffset +
        loader.header.romFs.offset.toNat * mediaUnit + romFsHeaderSize)).toNat =
        loader.containerOffset + loader.header.romFs.offset.toNat * mediaUnit +
          romFsHeaderSize := by
      apply UInt64.toNat_ofNat_of_lt'
      simp only [mediaUnit, romFsHeaderSize, UInt64.size]
      omega
    have size : (UInt64.ofNat (loader.header.romFs.size.toNat * mediaUnit -
        romFsHeaderSize)).toNat =
        loader.header.romFs.size.toNat * mediaUnit - romFsHeaderSize := by
      apply UInt64.toNat_ofNat_of_lt'
      simp only [mediaUnit, romFsHeaderSize, UInt64.size]
      omega
    refine ⟨rfl, ?_, ?_, ?_, ?_⟩
    · rw [size]
      exact Nat.sub_add_cancel (Nat.not_lt.mp whole)
    · rw [offset, size]
      exact Nat.not_lt.mp stored
    · rw [offset, size]
      simp only [mediaUnit, romFsHeaderSize, Medium.limit]
      omega
    · funext position
      simp only [RomFsImage.plainByte, dumpByte, offset, mask_romFsContext]
      rw [Nat.add_assoc _ romFsHeaderSize]

end Loader

namespace Command

/-- How a copy stands that got as far as `offset`. -/
structure Copying (file : OpenFile) (contents : Contents) (target : Nat) (host : Host)
    (source : ImageFile) (offset : Nat) : Prop where
  opened : source.file = some file
  stored : host.medium file = .regular contents
  present : target < host.files.length
  faithful : source.cache.Faithful source.image contents
  copied : (host.contents target).toBytes =
    Bytes.stretch (source.image.plainByte contents) 0 offset

section

variable {file : OpenFile} {contents : Contents} {target : Nat} {host : Host} {source : ImageFile}
  {offset : Nat}

theorem Copying.read (copying : Copying file contents target host source offset)
    (inside : source.image.offset.toNat + source.image.size.toNat ≤ contents.size)
    (bounded : source.image.offset.toNat + source.image.size.toNat < Medium.limit)
    {buffer : Bytes} (room : buffer ≠ []) (more : offset < source.image.size.toNat) :
    ∃ (cache : BlockCache) (count : Nat), cache.Faithful source.image contents ∧ 0 < count ∧
      offset + count ≤ source.image.size.toNat ∧
      source.read host (.ofNat offset) buffer =
        ({ source with cache },
          Bytes.stretch (source.image.plainByte contents) offset count ++ buffer.drop count,
          .ok count) := by
  have word : (UInt64.ofNat offset).toNat = offset := by
    apply UInt64.toNat_ofNat_of_lt'
    simp only [Medium.limit, UInt64.size] at bounded ⊢
    omega
  have nonempty := List.length_pos_iff.mpr room
  obtain ⟨cache, kept, reads⟩ := ImageFile.read_of_faithful copying.opened copying.stored
    copying.faithful inside (Nat.le_of_lt bounded) (.ofNat offset) buffer
  rw [word] at reads
  refine ⟨cache, ImageFile.readable source.image (.ofNat offset) buffer.length, kept, ?_, ?_, reads⟩
  · rw [ImageFile.readable, word]
    omega
  · rw [ImageFile.readable, word]
    omega

theorem Copying.write (copying : Copying file contents target host source offset) {count : Nat}
    (positive : 0 < count) (bounded : offset + count < Medium.limit) :
    ∃ next : Contents,
      host.writeAt ⟨.file target, true⟩ offset
        (Bytes.stretch (source.image.plainByte contents) offset count) =
          .ok (host.setContents target next) ∧
      next.toBytes = Bytes.stretch (source.image.plainByte contents) 0 (offset + count) := by
  have size : (host.contents target).size = offset := by
    rw [← Contents.length_toBytes, copying.copied, Bytes.length_stretch]
  have nonempty : Bytes.stretch (source.image.plainByte contents) offset count ≠ [] := by
    apply List.length_pos_iff.mp
    simpa
  have written := Host.writeAt_size nonempty
    (show (host.contents target).size + _ < Medium.limit by
      simpa [size])
  have grown := Contents.toBytes_write_size (host.contents target)
    (Bytes.stretch (source.image.plainByte contents) offset count)
  rw [size] at written grown
  refine ⟨_, written, ?_⟩
  rw [grown, copying.copied, Bytes.stretch_add, Nat.zero_add]

end

theorem copyFrom_of_copying {file : OpenFile} {contents : Contents} {target : Nat} (host : Host)
    (source : ImageFile) {offset : Nat}
    (copying : Copying file contents target host source offset)
    (apart : file.entry ≠ .file target)
    (inside : source.image.offset.toNat + source.image.size.toNat ≤ contents.size)
    (bounded : source.image.offset.toNat + source.image.size.toNat < Medium.limit)
    {buffer : Bytes} (room : buffer ≠ []) (short : offset ≤ source.image.size.toNat) :
    ∃ dump : Contents,
      copyFrom host (.image source) ⟨.file target, true⟩ buffer source.image.size.toNat offset =
        (host.setContents target dump, .ok ()) ∧
      dump.toBytes = Bytes.stretch (source.image.plainByte contents) 0 source.image.size.toNat := by
  by_cases more : offset < source.image.size.toNat
  · obtain ⟨cache, count, kept, positive, within, reads⟩ := copying.read inside bounded room more
    obtain ⟨next, writes, grown⟩ := copying.write positive (by omega)
    have onward : Copying file contents target (host.setContents target next)
        { source with cache } (offset + count) :=
      { opened := copying.opened
        stored := (Host.medium_setContents apart next).trans copying.stored
        present := by simpa using copying.present
        faithful := kept
        copied := by simp [copying.present, grown] }
    have chunk : (Bytes.stretch (source.image.plainByte contents) offset count ++
        buffer.drop count).take count =
        Bytes.stretch (source.image.plainByte contents) offset count :=
      List.take_left' (Bytes.length_stretch ..)
    have still : Bytes.stretch (source.image.plainByte contents) offset count ++
        buffer.drop count ≠ [] := by
      apply List.length_pos_iff.mp
      simp
      omega
    -- No chunk is empty, so what is left to copy has become less.
    obtain ⟨dump, copies, whole⟩ := copyFrom_of_copying (host.setContents target next)
      { source with cache } onward apart inside bounded still within
    refine ⟨dump, ?_, whole⟩
    rw [copyFrom, if_pos more]
    simp only [FileHandle.read, reads, if_neg (Nat.ne_of_gt positive), chunk, writes, copies,
      Host.setContents_setContents]
  · have done : offset = source.image.size.toNat := by omega
    refine ⟨host.contents target, ?_, done ▸ copying.copied⟩
    rw [copyFrom, if_neg more, Host.setContents_contents copying.present]
termination_by source.image.size.toNat - offset
decreasing_by omega

theorem openPath_eq_ok {host : Host} {path : HostPath} {keys : KeyProvider} {loader : Loader}
    (opened : Loader.openPath host path keys = .ok loader) :
    ∃ entry, loader = .ofFile ⟨entry, false⟩ path keys ∧
      host.openFile path false = .ok ⟨entry, false⟩ ∧ host.entryAt? path = some entry := by
  cases found : host.lookup path with
  | error cause => simp [Loader.openPath, Host.openFile, found] at opened
  | ok place =>
      obtain ⟨location, entry⟩ := place
      have opens : host.openFile path false = .ok ⟨entry, false⟩ := by
        simp only [Host.openFile, found, Bool.false_and, Bool.false_eq_true, if_false]
      refine ⟨entry, ?_, opens, ?_⟩
      · rw [Loader.openPath, opens] at opened
        exact (Except.ok.inj opened).symm
      · simp only [Host.entryAt?, found, Except.toOption, Option.map_some]

theorem runRomFs_of_readRomFs {host : Host} {container : HostPath} {loader loaded : Loader}
    {image : RomFsImage} (output : HostPath) (opened : Loader.openPath host container .zero = .ok loader)
    (unloaded : loader.headersLoaded = false)
    (located : loader.readRomFs (host.medium loader.file) = (loaded, .ok image)) :
    runRomFs host container output = copyImage host image output := by
  obtain ⟨headers, found, rfl, answered⟩ := Loader.afterHeaders_eq_ok unloaded located
  have loads := Loader.loadHeaders_of_read unloaded found
  have headed : openContainer host container = .ok (loader.withHeaders headers) := by
    simp only [openContainer, opened, loads]
  have again : (loader.withHeaders headers).readRomFs (host.medium loader.file) =
      (loader.withHeaders headers, .ok image) := by
    rw [Loader.readRomFs, Loader.afterHeaders_of_loaded rfl, answered]
  have file : (loader.withHeaders headers).file = loader.file := rfl
  simp only [runRomFs, headed, file, again]

theorem entry_ne_created {host created : Host} {container output : HostPath} {entry : Entry}
    {target : Nat} (stands : host.entryAt? container = some entry)
    (made : Host.Created host output created target)
    (other : host.entryAt? output ≠ host.entryAt? container) : entry ≠ .file target := by
  rintro rfl
  rcases made.origin with same | fresh
  · exact other (same.trans stands.symm)
  · cases found : host.lookup container with
    | error cause => simp [Host.entryAt?, found, Except.toOption] at stands
    | ok place =>
        obtain ⟨location, entry⟩ := place
        simp only [Host.entryAt?, found, Except.toOption, Option.map_some,
          Option.some.injEq] at stands
        have old := Host.lt_of_lookup_file (stands ▸ found)
        omega

theorem medium_created {host created : Host} {output : HostPath} {file : OpenFile}
    {contents : Contents} {target : Nat} (stored : host.medium file = .regular contents)
    (made : Host.Created host output created target) (apart : file.entry ≠ .file target) :
    created.medium file = .regular contents := by
  obtain ⟨entry, writable⟩ := file
  cases entry with
  | directory => exact stored
  | file id =>
      have different : id ≠ target := fun same => apart (congrArg _ same)
      simp only [Host.medium, made.others id different] at stored ⊢
      exact stored

theorem copyImage_of_covers {host created : Host} {container output : HostPath} {entry : Entry}
    {loader : Loader} {image : RomFsImage} {contents : Contents} {target : Nat}
    (opens : host.openFile container false = .ok ⟨entry, false⟩) (path : loader.path = container)
    (stored : created.medium ⟨entry, false⟩ = .regular contents)
    (covers : loader.Covers image contents) (creates : host.createFile output = .ok (created, target))
    (apart : entry ≠ .file target) :
    ∃ dump : Contents,
      copyImage host image output = (created.setContents target dump, .ok ()) ∧
      dump.toBytes = Bytes.stretch (loader.dumpByte contents) 0 image.size.toNat := by
  have made := Host.createFile_eq_ok creates
  have start : Copying ⟨entry, false⟩ contents target created (.ofImage ⟨entry, false⟩ image) 0 :=
    { opened := rfl
      stored
      present := made.stored
      faithful := BlockCache.empty_faithful image contents
      copied := by
        rw [made.empty]
        rfl }
  have room : List.replicate chunkSize (0 : UInt8) ≠ [] := by
    apply List.length_pos_iff.mp
    rw [List.length_replicate]
    decide
  obtain ⟨dump, copies, whole⟩ := copyFrom_of_copying created (.ofImage ⟨entry, false⟩ image)
    start apart covers.inside covers.addressable room (Nat.zero_le _)
  refine ⟨dump, ?_, ?_⟩
  · simp only [copyImage, Archive.openFile, covers.path, path, opens, creates]
    exact copies
  · rw [← covers.bytes]
    exact whole

/-- The dump is the decrypted RomFS, and the container stays as it was. -/
theorem run_romFs_eq_dump {host created : Host} {container output : HostPath}
    {loader loaded : Loader} {image : RomFsImage} {target : Nat}
    (opened : Loader.openPath host container .zero = .ok loader)
    (located : loader.readRomFs (host.medium loader.file) = (loaded, .ok image))
    (creatable : host.createFile output = .ok (created, target))
    (other : host.entryAt? output ≠ host.entryAt? container) :
    ∃ contents after dump,
      host.medium loader.file = .regular contents ∧
      (romFs container output).run host = (after, .ok []) ∧
      after.medium loader.file = .regular contents ∧
      after.readFile output = .ok dump ∧
      dump.length + romFsHeaderSize = loaded.header.romFs.size.toNat * mediaUnit ∧
      (∀ index (inside : index < dump.length), dump[index] = loaded.dumpByte contents index) ∧
      image.offset.toNat + image.size.toNat ≤ contents.size := by
  obtain ⟨entry, rfl, opens, stands⟩ := openPath_eq_ok opened
  have runs := runRomFs_of_readRomFs output opened rfl located
  obtain ⟨headers, found, rfl, answered⟩ := Loader.afterHeaders_eq_ok rfl located
  obtain ⟨contents, stored, placed⟩ :=
    Headers.locate_eq_ok (Headers.read_eq_ok.mp found).located
  rw [stored] at answered
  have covers := Loader.romFsImage_eq_ok placed answered
  have made := Host.createFile_eq_ok creatable
  have apart := entry_ne_created stands made other
  have kept := medium_created stored made apart
  obtain ⟨dump, copies, whole⟩ := copyImage_of_covers opens rfl kept covers creatable apart
  obtain ⟨location, leads⟩ := made.leads
  refine ⟨contents, created.setContents target dump, dump.toBytes, stored, ?_, ?_, ?_, ?_, ?_,
    covers.inside⟩
  · rw [run, runs, copies]
  · exact (Host.medium_setContents apart dump).trans kept
  · have same : (created.setContents target dump).lookup output = created.lookup output := rfl
    rw [Host.readFile, same, leads]
    simp [made.stored]
  · simpa [whole] using covers.size
  · intro index inside
    simp [whole]

def smallTitle : Contents :=
  ((Contents.empty.resize 0x1400).write 0x100 ContainerHeader.containerMagic).write 0x1B0
    [1, 0, 0, 0, 9, 0, 0, 0]

def titleHost : Host := ((Host.empty []).addFile ["title"]).setContents 0 smallTitle

def titleLoader : Loader := .ofFile ⟨.file 0, false⟩ ⟨["title"]⟩ .zero

def headedTitle : Loader := (titleLoader.readRomFs (titleHost.medium titleLoader.file)).1

theorem run_romFs_of_smallTitle : ∃ after dump,
    (romFs ⟨["title"]⟩ ⟨["dump"]⟩).run titleHost = (after, .ok []) ∧
      after.readFile ⟨["dump"]⟩ = .ok dump ∧ dump.length = 0x200 := by
  have answered : (titleLoader.readRomFs (titleHost.medium titleLoader.file)).2 =
      .ok ⟨⟨["title"]⟩, 0x1200, 0x200, .plain⟩ := by decide +kernel
  have located : titleLoader.readRomFs (titleHost.medium titleLoader.file) =
      (headedTitle, .ok ⟨⟨["title"]⟩, 0x1200, 0x200, .plain⟩) := by
    rw [← answered, headedTitle]
  have creatable : titleHost.createFile ⟨["dump"]⟩ = .ok (titleHost.addFile ["dump"], 1) := by rfl
  have units : headedTitle.header.romFs.size = 9 := by decide +kernel
  obtain ⟨contents, after, dump, -, runs, -, reads, size, -, -⟩ :=
    run_romFs_eq_dump (show Loader.openPath titleHost ⟨["title"]⟩ .zero = .ok titleLoader from rfl)
      located creatable (by decide)
  rw [units] at size
  exact ⟨after, dump, runs, reads, Nat.add_right_cancel size⟩

end Command

end GuestStorage
