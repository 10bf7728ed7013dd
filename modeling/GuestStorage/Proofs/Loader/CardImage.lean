import GuestStorage.Proofs.Loader.Retry
import GuestStorage.Proofs.RomFs.Dump
import Mathlib.Data.List.Forall2

/-!
# Card images

A card image is a cover of 0x4000 bytes and then its first partition. `Wraps` relates the file of the card
image to that of the partition alone, `Paired` a loader of the one to a loader of the other, and
`answer_paired` says that the two answer alike: the cover shows only in where a RomFS image starts.
-/

namespace GuestStorage

/-- A card image is a cover and a partition that is not a card image itself, be it sound or not. -/
structure Wraps (cover : Bytes) (bare card : Contents) : Prop where
  length : cover.length = firstPartition
  magic : Bytes.slice cover 0x100 4 = ContainerHeader.cardMagic
  inner : Bytes.slice bare.toBytes 0x100 4 ≠ ContainerHeader.cardMagic
  bytes : card.toBytes = cover ++ bare.toBytes

namespace Wraps

variable {cover : Bytes} {bare card : Contents}

/-! ## Reading -/

theorem size (wraps : Wraps cover bare card) : card.size = firstPartition + bare.size := by
  rw [← card.length_toBytes, wraps.bytes, List.length_append, wraps.length, bare.length_toBytes]

theorem byteAt (wraps : Wraps cover bare card) (position : Nat) :
    card.byteAt (firstPartition + position) = bare.byteAt position := by
  have size := wraps.size
  by_cases inside : position < bare.size
  · have stored : firstPartition + position < card.toBytes.length := by
      simp
      omega
    rw [← card.getElem_toBytes stored]
    simp only [wraps.bytes]
    rw [List.getElem_append_right (by rw [wraps.length]; omega), bare.getElem_toBytes, wraps.length,
      Nat.add_sub_cancel_left]
  · rw [Contents.byteAt_eq_zero (by omega), Contents.byteAt_eq_zero (by omega)]

theorem read (wraps : Wraps cover bare card) (offset length : Nat) :
    card.read (firstPartition + offset) length = bare.read offset length := by
  have size := wraps.size
  apply List.ext_getElem
  · simp
    omega
  · intro index left right
    simp [Nat.add_assoc, wraps.byteAt]

theorem readExact (wraps : Wraps cover bare card) {offset : Nat} (length : Nat)
    (bounded : firstPartition + offset < Medium.limit) :
    (Medium.regular card).readExact (firstPartition + offset) length =
      (Medium.regular bare).readExact offset length := by
  have below : offset < Medium.limit := Nat.lt_of_le_of_lt (Nat.le_add_left ..) bounded
  simp only [Medium.readExact, Medium.readAt, if_neg (Nat.not_le.mpr bounded),
    if_neg (Nat.not_le.mpr below), wraps.read]

end Wraps

/-! ## Headers -/

namespace Headers

variable {cover : Bytes} {bare card : Contents}

theorem locate_wraps (wraps : Wraps cover bare card) :
    match locate (.regular bare) with
    | .error cause => locate (.regular card) = .error cause
    | .ok (base, header) => base = 0 ∧ locate (.regular card) = .ok (firstPartition, header) := by
  have size := wraps.size
  have covered : ContainerHeader.size ≤ card.size := by
    rw [size]
    exact Nat.le_add_right_of_le (by decide)
  have marked : (ContainerHeader.ofBytes (card.read 0 ContainerHeader.size)).magic =
      ContainerHeader.cardMagic := by
    rw [magic_read covered, wraps.bytes, Bytes.slice_append_left _ (by rw [wraps.length]; decide),
      wraps.magic]
  have front : (Medium.regular card).readExact 0 ContainerHeader.size =
      .ok (card.read 0 ContainerHeader.size) :=
    Medium.readExact_regular (by decide) (by rwa [Nat.zero_add])
  have partition := wraps.readExact ContainerHeader.size
    (show firstPartition + 0 < Medium.limit by decide)
  rw [Nat.add_zero] at partition
  cases stored : (Medium.regular bare).readExact 0 ContainerHeader.size with
  | error cause =>
      rw [stored] at partition
      simp only [locate, front, marked, stored, partition, ne_eq, not_true_eq_false, if_false]
  | ok data =>
      obtain ⟨contents, same, -, whole, rfl⟩ := Medium.readExact_eq_ok (by decide) stored
      obtain rfl := Medium.regular.inj same
      have plain : (ContainerHeader.ofBytes (bare.read 0 ContainerHeader.size)).magic ≠
          ContainerHeader.cardMagic := by
        rw [magic_read (by omega)]
        exact wraps.inner
      rw [stored] at partition
      simp only [locate, front, marked, stored, partition, ne_eq, plain, not_true_eq_false,
        not_false_eq_true, if_false, if_true]
      exact ⟨trivial, trivial⟩

theorem read_wraps (keys : KeyProvider) (wraps : Wraps cover bare card) :
    match read keys (.regular bare) with
    | .error cause => read keys (.regular card) = .error cause
    | .ok headers => headers.containerOffset = 0 ∧
        read keys (.regular card) = .ok { headers with containerOffset := firstPartition } := by
  have places := locate_wraps wraps
  cases located : locate (.regular bare) with
  | error cause =>
      rw [located] at places
      simp only [read, located, places]
  | ok place =>
      obtain ⟨base, header⟩ := place
      rw [located] at places
      obtain ⟨rfl, placed⟩ := places
      have extended := wraps.readExact ExtendedHeader.size
        (show firstPartition + ContainerHeader.size < Medium.limit by decide)
      have table := wraps.readExact SectionTable.size
        (show firstPartition + header.exeFsOffset < Medium.limit by
          have bound := exeFsOffset_lt header
          simp only [firstPartition, Medium.limit]
          omega)
      simp only [read, located, placed, extended, table, Nat.zero_add]
      by_cases magic : header.magic = ContainerHeader.containerMagic
      · rw [if_neg (not_not_intro magic), if_neg (not_not_intro magic)]
        cases (Medium.regular bare).readExact ContainerHeader.size ExtendedHeader.size with
        | error cause => rfl
        | ok data =>
            dsimp only
            cases unlock keys header data with
            | error cause => rfl
            | ok opened =>
                dsimp only
                cases (Medium.regular bare).readExact header.exeFsOffset SectionTable.size with
                | error cause => rfl
                | ok data => exact ⟨rfl, rfl⟩
      · rw [if_pos magic, if_pos magic]

end Headers

namespace Loader

/-! ## Two loaders -/

structure Located (outer inner : Loader) : Prop where
  outerOffset : outer.containerOffset = firstPartition
  innerOffset : inner.containerOffset = 0
  outerExeFs : outer.exeFsOffset = inner.header.exeFsOffset
  innerExeFs : inner.exeFsOffset = inner.header.exeFsOffset
  header : outer.header = inner.header
  crypto : outer.crypto = inner.crypto

structure Paired (outer inner : Loader) : Prop where
  keys : outer.keys = inner.keys
  state : outer.state = inner.state
  extendedHeader : outer.extendedHeader = inner.extendedHeader
  sections : outer.sections = inner.sections
  located : inner.headersLoaded = true → Located outer inner

variable {cover : Bytes} {bare card : Contents} {outer inner : Loader}

theorem paired_ofFile (file other : OpenFile) (path place : HostPath) (keys : KeyProvider) :
    Paired (ofFile file path keys) (ofFile other place keys) :=
  ⟨rfl, rfl, rfl, rfl, nofun⟩

theorem Paired.withState (paired : Paired outer inner) (located : Located outer inner)
    (state : LoaderState) : Paired { outer with state } { inner with state } :=
  ⟨paired.keys, rfl, paired.extendedHeader, paired.sections, fun _ =>
    ⟨located.outerOffset, located.innerOffset, located.outerExeFs, located.innerExeFs, located.header,
      located.crypto⟩⟩

theorem Paired.headersLoaded_eq (paired : Paired outer inner) :
    outer.headersLoaded = inner.headersLoaded := by
  simp only [headersLoaded, paired.state]

theorem loadHeaders_paired (wraps : Wraps cover bare card) (paired : Paired outer inner) :
    (∃ next other, outer.loadHeaders (.regular card) = (next, .ok ()) ∧
      inner.loadHeaders (.regular bare) = (other, .ok ()) ∧ Paired next other ∧ Located next other) ∨
    ∃ leftover other cause, outer.loadHeaders (.regular card) = (leftover, .error cause) ∧
      inner.loadHeaders (.regular bare) = (other, .error cause) ∧ Paired leftover other := by
  have same := paired.headersLoaded_eq
  cases ready : inner.headersLoaded with
  | true =>
      rw [ready] at same
      exact .inl ⟨outer, inner, by rw [loadHeaders, if_pos same], by rw [loadHeaders, if_pos ready], paired,
        paired.located ready⟩
  | false =>
      rw [ready] at same
      have first := loadHeaders_eq same (.regular card)
      have second := loadHeaders_eq ready (.regular bare)
      have reads := Headers.read_wraps inner.keys wraps
      rw [paired.keys] at first
      cases found : Headers.read inner.keys (.regular bare) with
      | ok headers =>
          rw [found] at second reads
          obtain ⟨start, reads⟩ := reads
          rw [reads] at first
          have located : Located (outer.withHeaders { headers with containerOffset := firstPartition })
              (inner.withHeaders headers) := ⟨rfl, start, rfl, rfl, rfl, rfl⟩
          exact .inl ⟨_, _, first, second, ⟨paired.keys, rfl, rfl, rfl, fun _ => located⟩, located⟩
      | error cause =>
          rw [found] at second reads
          rw [reads] at first
          obtain ⟨leftover, -, failsOuter⟩ := first
          obtain ⟨other, -, failsInner⟩ := second
          refine .inr ⟨_, _, cause, failsOuter, failsInner, ?_⟩
          obtain ⟨_, _, _, _, rfl⟩ := touched_of_loadHeaders failsOuter
          obtain ⟨_, _, _, _, rfl⟩ := touched_of_loadHeaders failsInner
          refine ⟨paired.keys, rfl, rfl, paired.sections, ?_⟩
          intro ready
          cases ready

/-! ## Sections and programs -/

theorem storedSection_paired (wraps : Wraps cover bare card) (paired : Paired outer inner)
    (located : Located outer inner) (name : String) (entry : Section) :
    outer.storedSection (.regular card) name entry =
      inner.storedSection (.regular bare) name entry := by
  have bounded : firstPartition + (inner.header.exeFsOffset +
      (entry.offset.toNat + SectionTable.size)) < Medium.limit := by
    have start := Headers.exeFsOffset_lt inner.header
    have within := entry.offset.toNat_lt
    simp only [firstPartition, SectionTable.size, Medium.limit]
    omega
  have reads := wraps.readExact entry.size.toNat bounded
  have size : (Medium.regular card).size = firstPartition + (Medium.regular bare).size := wraps.size
  have slot : outer.sectionSlot name = inner.sectionSlot name := by
    simp only [sectionSlot, located.crypto]
  have decrypts (data : Bytes) :
      outer.decryptExeFs (inner.sectionSlot name) (entry.offset.toNat + SectionTable.size) data =
        inner.decryptExeFs (inner.sectionSlot name) (entry.offset.toNat + SectionTable.size) data := by
    simp only [decryptExeFs, regionContext, located.crypto, paired.keys]
  -- The cover is in the position and in the size of the file, so the bounds check does not see it.
  simp only [storedSection, located.outerOffset, located.innerOffset, located.outerExeFs,
    located.innerExeFs, slot, decrypts, Nat.zero_add, Nat.add_assoc, reads, size,
    Nat.add_lt_add_iff_left]

theorem sectionNamed_paired (wraps : Wraps cover bare card) (paired : Paired outer inner)
    (located : Located outer inner) (name : String) :
    outer.sectionNamed (.regular card) name = inner.sectionNamed (.regular bare) name := by
  have compressed : outer.isCompressed = inner.isCompressed := by
    simp only [isCompressed, paired.extendedHeader]
  simp only [sectionNamed, storedSection_paired wraps paired located, paired.sections, compressed]

theorem programImage_paired (wraps : Wraps cover bare card) (paired : Paired outer inner)
    (located : Located outer inner) :
    outer.programImage (.regular card) = inner.programImage (.regular bare) := by
  simp only [programImage, sectionNamed_paired wraps paired located, paired.extendedHeader, programId,
    located.header]

/-! ## RomFS images -/

/-- The image in the card image is the one in the partition, moved by the cover. However it is read, the
two give the same. -/
structure Shifted (bare card : Contents) (outer inner : RomFsImage) : Prop where
  offset : outer.offset.toNat = inner.offset.toNat + firstPartition
  size : outer.size = inner.size
  context : outer.context = inner.context
  reads : ∀ (cardFile bareFile : OpenFile) (requests : List ImageFile.Request),
    (∀ request ∈ requests, request.host.medium cardFile = .regular card ∧
      request.host.medium bareFile = .regular bare) →
    (ImageFile.ofImage cardFile outer).answers requests =
      (ImageFile.ofImage bareFile inner).answers requests

theorem romFsImage_eq_map (wraps : Wraps cover bare card) (paired : Paired outer inner)
    (located : Located outer inner) :
    outer.romFsImage (.regular card) = (inner.romFsImage (.regular bare)).map fun image =>
      { image with path := outer.path, offset := .ofNat firstPartition + image.offset } := by
  have size : (Medium.regular card).size = firstPartition + (Medium.regular bare).size := wraps.size
  have context : outer.romFsContext = inner.romFsContext := by
    simp only [romFsContext, regionContext, located.crypto, paired.keys]
  simp only [romFsImage, located.header, located.outerOffset, located.innerOffset, context, size,
    Nat.zero_add, Nat.add_assoc, Nat.add_lt_add_iff_left]
  split
  · rfl
  · split
    · rfl
    · split
      · rfl
      · simp only [Except.map, UInt64.ofNat_add]

theorem shifted_of_covers (wraps : Wraps cover bare card) {image moved : RomFsImage}
    (within : inner.Covers image bare) (reaches : outer.Covers moved card)
    (offset : moved.offset = .ofNat firstPartition + image.offset) (size : moved.size = image.size)
    (context : moved.context = image.context) : Shifted bare card moved image := by
  have start : moved.offset.toNat = firstPartition + image.offset.toNat := by
    have bounded := within.addressable
    simp only [Medium.limit] at bounded
    rw [offset, UInt64.toNat_add]
    simp only [firstPartition, UInt64.reduceToNat, UInt64.reduceOfNat]
    omega
  have bytes : moved.plainByte card = image.plainByte bare := by
    funext position
    rw [RomFsImage.plainByte, RomFsImage.plainByte, start, Nat.add_assoc, wraps.byteAt, context]
  refine ⟨by rw [start, Nat.add_comm], size, context, ?_⟩
  intro cardFile bareFile requests unchanged
  have outerRun := ImageFile.answers_of_faithful
    (show (ImageFile.ofImage cardFile moved).file = some cardFile from rfl)
    (BlockCache.empty_faithful moved card) reaches.inside (Nat.le_of_lt reaches.addressable) requests
    fun request member => (unchanged request member).1
  have innerRun := ImageFile.answers_of_faithful
    (show (ImageFile.ofImage bareFile image).file = some bareFile from rfl)
    (BlockCache.empty_faithful image bare) within.inside (Nat.le_of_lt within.addressable) requests
    fun request member => (unchanged request member).2
  rw [outerRun, innerRun]
  simp only [ImageFile.ofImage, ImageFile.readable, bytes, size]

/-! ## Calls -/

def Agree (bare card : Contents) : Answer → Answer → Prop
  | .romFs (.ok moved), .romFs (.ok image) => Shifted bare card moved image
  | outer, inner => outer = inner

theorem agree_romFs (wraps : Wraps cover bare card) (paired : Paired outer inner)
    (located : Located outer inner) :
    Agree bare card (.romFs (outer.romFsImage (.regular card)))
      (.romFs (inner.romFsImage (.regular bare))) := by
  have whole := romFsImage_eq_map wraps paired located
  cases found : inner.romFsImage (.regular bare) with
  | error cause =>
      rw [found] at whole
      rw [whole]
      rfl
  | ok image =>
      rw [found] at whole
      rw [whole]
      have within := romFsImage_eq_ok (located.innerOffset ▸ Nat.zero_le _) found
      have reaches := romFsImage_eq_ok (Nat.le_of_eq located.outerOffset) whole
      exact shifted_of_covers wraps within reaches rfl rfl rfl

theorem Agree.image {answer : Answer} {image : RomFsImage}
    (agree : Agree bare card answer (.romFs (.ok image))) :
    ∃ moved, answer = .romFs (.ok moved) ∧ Shifted bare card moved image := by
  rw [Agree.eq_def] at agree
  split at agree
  · rename_i moved _ same
    cases same
    exact ⟨moved, rfl, agree⟩
  · rename_i other
    exact absurd rfl (other _ image agree)

theorem agree_refusal (bare card : Contents) (cause : LoaderError) (call : Call) :
    Agree bare card (call.refusal cause) (call.refusal cause) := by
  cases call <;> rfl

theorem answer_paired (wraps : Wraps cover bare card) (paired : Paired outer inner) (call : Call) :
    Agree bare card (outer.answer (.regular card) call).2 (inner.answer (.regular bare) call).2 ∧
      Paired (outer.answer (.regular card) call).1 (inner.answer (.regular bare) call).1 := by
  rcases loadHeaders_paired wraps paired with
    ⟨next, other, loadsOuter, loadsInner, after, located⟩ |
      ⟨leftover, other, cause, failsOuter, failsInner, after⟩
  · cases call with
    | headers =>
        simp only [answer, loadsOuter, loadsInner]
        exact ⟨rfl, after⟩
    | part name =>
        simp only [answer, loadSection, afterHeaders, loadsOuter, loadsInner,
          sectionNamed_paired wraps after located]
        exact ⟨rfl, after⟩
    | romFs =>
        simp only [answer, readRomFs, afterHeaders, loadsOuter, loadsInner]
        exact ⟨agree_romFs wraps after located, after⟩
    | program =>
        by_cases done : inner.state = .loaded
        · simp only [answer, load_of_loaded done, load_of_loaded (paired.state.trans done)]
          exact ⟨rfl, paired⟩
        · have before : outer.state ≠ .loaded := fun same => done (paired.state.symm.trans same)
          have image := programImage_paired wraps after located
          simp only [answer, load, if_neg done, if_neg before, afterHeaders, loadsOuter, loadsInner, image]
          cases other.programImage (.regular bare) with
          | error cause => exact ⟨rfl, after⟩
          | ok program => exact ⟨rfl, after.withState located .loaded⟩
  · rw [answer_of_failure failsOuter, answer_of_failure failsInner]
    exact ⟨agree_refusal bare card cause call, after⟩

theorem answers_paired (wraps : Wraps cover bare card) (paired : Paired outer inner) (calls : List Call) :
    List.Forall₂ (Agree bare card) (outer.answers (.regular card) calls)
        (inner.answers (.regular bare) calls) ∧
      Paired (outer.after (.regular card) calls) (inner.after (.regular bare) calls) := by
  induction calls generalizing outer inner with
  | nil => exact ⟨.nil, paired⟩
  | cons call rest ih =>
      obtain ⟨agree, next⟩ := answer_paired wraps paired call
      obtain ⟨later, last⟩ := ih next
      exact ⟨.cons agree later, last⟩

/-- Whatever bytes follow the cover, a loader of the card image answers all calls like one of these bytes
alone, and both show the same extended header and section table after them. -/
theorem answers_of_card (wraps : Wraps cover bare card) (cardFile bareFile : OpenFile)
    (cardPath barePath : HostPath) (keys : KeyProvider) (calls : List Call) :
    List.Forall₂ (Agree bare card) ((ofFile cardFile cardPath keys).answers (.regular card) calls)
        ((ofFile bareFile barePath keys).answers (.regular bare) calls) ∧
      ((ofFile cardFile cardPath keys).after (.regular card) calls).extendedHeader =
        ((ofFile bareFile barePath keys).after (.regular bare) calls).extendedHeader ∧
      ((ofFile cardFile cardPath keys).after (.regular card) calls).sections =
        ((ofFile bareFile barePath keys).after (.regular bare) calls).sections := by
  obtain ⟨agree, last⟩ := answers_paired wraps (paired_ofFile cardFile bareFile cardPath barePath keys) calls
  exact ⟨agree, last.extendedHeader, last.sections⟩

theorem answers_romFs (loader : Loader) (medium : Medium) :
    loader.answers medium [.romFs] = [.romFs (loader.readRomFs medium).2] := by
  simp only [answers, answer, Prod.map_snd]

def plainCover : Bytes :=
  List.replicate 0x100 0 ++ ContainerHeader.cardMagic ++ List.replicate 0x3EFC 0

theorem answers_of_smallCard : ∃ image,
    (ofFile ⟨.file 0, false⟩ ⟨["card"]⟩ .zero).answers
        (.regular (.ofBytes (plainCover ++ Command.smallTitle.toBytes))) [.romFs] =
      [.romFs (.ok image)] ∧ image.offset.toNat = 0x5200 ∧ image.size = 0x200 := by
  have length : plainCover.length = firstPartition := by
    rw [plainCover, List.length_append, List.length_append, List.length_replicate, List.length_replicate]
    rfl
  have wraps : Wraps plainCover Command.smallTitle
      (.ofBytes (plainCover ++ Command.smallTitle.toBytes)) :=
    ⟨length, by decide +kernel, by decide +kernel, Contents.toBytes_ofBytes _⟩
  have alone : ((ofFile ⟨.file 1, false⟩ ⟨["title"]⟩ .zero).readRomFs
      (.regular Command.smallTitle)).2 = .ok ⟨⟨["title"]⟩, 0x1200, 0x200, .plain⟩ := by decide +kernel
  have agree := (answers_of_card wraps ⟨.file 0, false⟩ ⟨.file 1, false⟩ ⟨["card"]⟩ ⟨["title"]⟩ .zero
    [.romFs]).1
  simp only [answers_romFs, alone, List.forall₂_cons, List.Forall₂.nil, and_true] at agree
  obtain ⟨moved, answered, shifted⟩ := agree.image
  have start : moved.offset.toNat = 0x5200 := by
    rw [shifted.offset]
    simp only [UInt64.reduceToNat, firstPartition]
  refine ⟨moved, ?_, start, shifted.size⟩
  rw [answers_romFs, answered]

end Loader

end GuestStorage
