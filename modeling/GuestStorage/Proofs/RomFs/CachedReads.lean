import GuestStorage.Archive.FileHandle
import GuestStorage.Proofs.Cipher.Keystream
import GuestStorage.Proofs.Host.Media

/-!
# Reading an image through its block cache

A handle on an image keeps the block that it decrypted last. No run of reads shows it: every read gives
the bytes that decrypting the whole range at once gives. What carries the run is `BlockCache.Faithful`: a
block that the cache names is the block of the image.
-/

namespace GuestStorage

namespace RomFsImage

def plainByte (image : RomFsImage) (contents : Contents) (position : Nat) : UInt8 :=
  contents.byteAt (image.offset.toNat + position) ^^^ image.context.mask position

theorem applyKeystream_read (image : RomFsImage) {contents : Contents}
    (inside : image.offset.toNat + image.size.toNat ≤ contents.size) :
    image.context.applyKeystream 0 (contents.read image.offset.toNat image.size.toNat) =
      Bytes.stretch (image.plainByte contents) 0 image.size.toNat := by
  rw [CounterContext.applyKeystream_eq]
  apply List.ext_getElem
  · simp
    omega
  · intro index left right
    simp [plainByte]

end RomFsImage

namespace BlockCache

/-- The block that the cache names is the one it holds. -/
def Faithful (cache : BlockCache) (image : RomFsImage) (contents : Contents) : Prop :=
  ∀ index, cache.index = some index →
    cache.data = Bytes.stretch (image.plainByte contents)
      (CounterContext.blockSize * index) CounterContext.blockSize

theorem empty_faithful (image : RomFsImage) (contents : Contents) :
    empty.Faithful image contents := by
  intro index named
  contradiction

theorem load_of_faithful {cache : BlockCache} {image : RomFsImage} {contents : Contents}
    (encrypted : image.context.encrypted = true) (faithful : cache.Faithful image contents)
    {block : Nat}
    (addressable : image.offset.toNat + CounterContext.blockSize * block < Medium.limit) :
    ∃ next : BlockCache, next.Faithful image contents ∧
      cache.load (.regular contents) image block =
        (next, .ok (Bytes.stretch (image.plainByte contents)
          (CounterContext.blockSize * block) CounterContext.blockSize)) := by
  by_cases hit : cache.index = some block
  · exact ⟨cache, faithful, by rw [load, if_pos hit, faithful block hit]⟩
  · have position : (image.offset + .ofNat (block * CounterContext.blockSize)).toNat =
        image.offset.toNat + CounterContext.blockSize * block := by
      simp only [CounterContext.blockSize, Medium.limit] at addressable ⊢
      rw [UInt64.toNat_add, UInt64.toNat_ofNat']
      omega
    have decrypted : Bytes.xor (Bytes.fit CounterContext.blockSize (contents.read
        (image.offset.toNat + CounterContext.blockSize * block) CounterContext.blockSize))
        (image.context.keystreamBlock block) =
        Bytes.stretch (image.plainByte contents) (CounterContext.blockSize * block)
          CounterContext.blockSize := by
      rw [Contents.fit_read]
      apply List.ext_getElem
      · simp [Bytes.xor]
      · intro index left right
        simp [Bytes.xor, RomFsImage.plainByte, CounterContext.mask, encrypted, Nat.add_assoc]
    refine ⟨⟨some block, Bytes.stretch (image.plainByte contents)
      (CounterContext.blockSize * block) CounterContext.blockSize⟩, ?_, ?_⟩
    · intro index named
      rw [← Option.some.inj named]
    · simp only [load, if_neg hit, position, Medium.readAt, if_neg (Nat.not_le.mpr addressable),
        decrypted]

theorem fill_of_faithful {image : RomFsImage} {contents : Contents}
    (encrypted : image.context.encrypted = true) (cache : BlockCache)
    (faithful : cache.Faithful image contents) (position : Nat) (buffer : Bytes)
    (addressable : image.offset.toNat + position + buffer.length ≤ Medium.limit) :
    ∃ next : BlockCache, next.Faithful image contents ∧
      cache.fill (.regular contents) image position buffer =
        (next, Bytes.stretch (image.plainByte contents) position buffer.length, .ok ()) := by
  by_cases done : buffer = []
  · exact ⟨cache, faithful, by rw [fill, if_pos done, done]; rfl⟩
  · have nonempty := List.length_pos_iff.mpr done
    have start : CounterContext.blockSize * (position / CounterContext.blockSize) +
        position % CounterContext.blockSize = position := Nat.div_add_mod ..
    have short : position % CounterContext.blockSize < CounterContext.blockSize :=
      Nat.mod_lt _ (by decide)
    obtain ⟨loaded, kept, load⟩ := load_of_faithful encrypted faithful
      (show image.offset.toNat + CounterContext.blockSize *
        (position / CounterContext.blockSize) < Medium.limit by omega)
    obtain ⟨count, taken⟩ : ∃ count, count =
        (buffer.take (CounterContext.blockSize - position % CounterContext.blockSize)).length :=
      ⟨_, rfl⟩
    have progress : 0 < count := by
      rw [taken, List.length_take]
      omega
    have within : position % CounterContext.blockSize + count ≤ CounterContext.blockSize := by
      rw [taken, List.length_take]
      omega
    have whole : count + (buffer.drop count).length = buffer.length := by
      rw [List.length_drop, taken, List.length_take]
      omega
    -- The first block may be entered late and left early; the next one starts at a boundary.
    obtain ⟨next, sound, fills⟩ := fill_of_faithful encrypted loaded kept (position + count)
      (buffer.drop count) (by omega)
    refine ⟨next, sound, ?_⟩
    rw [fill, if_neg done, load]
    simp only [← taken, fills]
    rw [← whole, Bytes.stretch_add, Bytes.slice_stretch _ within, start]
termination_by buffer.length
decreasing_by omega

end BlockCache

namespace ImageFile

def readable (image : RomFsImage) (offset : UInt64) (length : Nat) : Nat :=
  min length (image.size.toNat - offset.toNat)

theorem readRange_of_faithful {self : ImageFile} {contents : Contents}
    (faithful : self.cache.Faithful self.image contents)
    (inside : self.image.offset.toNat + self.image.size.toNat ≤ contents.size)
    (bounded : self.image.offset.toNat + self.image.size.toNat ≤ Medium.limit)
    (offset : Nat) (buffer : Bytes) (ranged : offset + buffer.length ≤ self.image.size.toNat)
    (started : offset < self.image.size.toNat) :
    ∃ next : BlockCache, next.Faithful self.image contents ∧
      self.readRange (.regular contents) offset buffer =
        ({ self with cache := next },
          Bytes.stretch (self.image.plainByte contents) offset buffer.length,
          .ok buffer.length) := by
  by_cases encrypted : self.image.context.encrypted = true
  · obtain ⟨next, sound, fills⟩ := BlockCache.fill_of_faithful encrypted self.cache faithful offset
      buffer (by omega)
    refine ⟨next, sound, ?_⟩
    rw [readRange, if_pos encrypted, fills]
    rfl
  · refine ⟨self.cache, faithful, ?_⟩
    have position : (self.image.offset + .ofNat offset).toNat =
        self.image.offset.toNat + offset := by
      simp only [Medium.limit] at bounded
      rw [UInt64.toNat_add, UInt64.toNat_ofNat']
      omega
    have whole : contents.read (self.image.offset.toNat + offset) buffer.length =
        Bytes.stretch (self.image.plainByte contents) offset buffer.length := by
      apply List.ext_getElem
      · simp
        omega
      · intro index left right
        simp [RomFsImage.plainByte, CounterContext.mask, encrypted, Nat.add_assoc]
    rw [readRange, if_neg encrypted, position, Medium.readAt, if_neg (by omega)]
    simp [received, whole]

theorem read_of_faithful {self : ImageFile} {file : OpenFile} {host : Host} {contents : Contents}
    (opened : self.file = some file) (stored : host.medium file = .regular contents)
    (faithful : self.cache.Faithful self.image contents)
    (inside : self.image.offset.toNat + self.image.size.toNat ≤ contents.size)
    (bounded : self.image.offset.toNat + self.image.size.toNat ≤ Medium.limit)
    (offset : UInt64) (buffer : Bytes) :
    ∃ next : BlockCache, next.Faithful self.image contents ∧
      self.read host offset buffer =
        ({ self with cache := next },
          Bytes.stretch (self.image.plainByte contents) offset.toNat
            (readable self.image offset buffer.length) ++
            buffer.drop (readable self.image offset buffer.length),
          .ok (readable self.image offset buffer.length)) := by
  obtain ⟨held, image, cache⟩ := self
  obtain rfl : held = some file := opened
  by_cases past : image.size.toNat - offset.toNat = 0
  · refine ⟨cache, faithful, ?_⟩
    simp only [read, past, if_true, readable, Nat.min_zero, List.drop_zero]
    rfl
  · have part : (buffer.take (image.size.toNat - offset.toNat)).length =
        readable image offset buffer.length := by
      rw [List.length_take, readable, Nat.min_comm]
    have rest : buffer.drop (image.size.toNat - offset.toNat) =
        buffer.drop (readable image offset buffer.length) := by
      by_cases short : buffer.length ≤ image.size.toNat - offset.toNat
      · rw [readable, Nat.min_eq_left short, List.drop_of_length_le short, List.drop_length]
      · rw [readable, Nat.min_eq_right (Nat.le_of_not_le short)]
    obtain ⟨next, sound, reads⟩ := readRange_of_faithful faithful inside bounded offset.toNat
      (buffer.take (image.size.toNat - offset.toNat))
      (by rw [part, readable]; simp only; omega) (by simp only; omega)
    refine ⟨next, sound, ?_⟩
    simp only [read, stored, if_neg past, reads, part, rest]
    rfl

structure Request where
  host : Host
  offset : UInt64
  buffer : Bytes

def answers (self : ImageFile) : List Request → List (Bytes × Except ResultCode Nat)
  | [] => []
  | request :: rest =>
    let (next, answer) := self.read request.host request.offset request.buffer
    answer :: answers next rest

theorem answers_of_faithful {self : ImageFile} {file : OpenFile} {contents : Contents}
    (opened : self.file = some file) (faithful : self.cache.Faithful self.image contents)
    (inside : self.image.offset.toNat + self.image.size.toNat ≤ contents.size)
    (bounded : self.image.offset.toNat + self.image.size.toNat ≤ Medium.limit)
    (requests : List Request)
    (unchanged : ∀ request ∈ requests, request.host.medium file = .regular contents) :
    self.answers requests = requests.map fun request =>
      (Bytes.stretch (self.image.plainByte contents) request.offset.toNat
          (readable self.image request.offset request.buffer.length) ++
          request.buffer.drop (readable self.image request.offset request.buffer.length),
        .ok (readable self.image request.offset request.buffer.length)) := by
  induction requests generalizing self with
  | nil => rfl
  | cons request rest ih =>
      obtain ⟨next, kept, reads⟩ := read_of_faithful opened (unchanged request List.mem_cons_self)
        faithful inside bounded request.offset request.buffer
      have later := ih (show ({ self with cache := next } : ImageFile).file = some file from opened)
        kept inside bounded fun other member => unchanged other (List.mem_cons_of_mem _ member)
      rw [answers, reads, List.map_cons]
      exact congrArg _ later

def plaintext (image : RomFsImage) (contents : Contents) : Bytes :=
  image.context.applyKeystream 0 (contents.read image.offset.toNat image.size.toNat)

theorem stretch_eq_slice_plaintext {image : RomFsImage} {contents : Contents}
    (inside : image.offset.toNat + image.size.toNat ≤ contents.size) (offset : UInt64)
    (length : Nat) :
    Bytes.stretch (image.plainByte contents) offset.toNat (readable image offset length) =
      Bytes.slice (plaintext image contents) offset.toNat (readable image offset length) := by
  rw [plaintext, image.applyKeystream_read inside]
  by_cases past : image.size.toNat ≤ offset.toNat
  · have none : readable image offset length = 0 := by
      rw [readable]
      omega
    simp [none, Bytes.slice, Bytes.stretch]
  · rw [Bytes.slice_stretch _ (by rw [readable]; omega), Nat.zero_add]

/-- Whatever the order and the size of the reads, each gets its part of the plaintext, and the same as on
a fresh handle. Only the container file has to stay as it is; `bounded` is the host's own limit. -/
theorem answers_eq_slice_plaintext {file : OpenFile} {image : RomFsImage} {contents : Contents}
    (inside : image.offset.toNat + image.size.toNat ≤ contents.size)
    (bounded : contents.size ≤ Medium.limit) (requests : List Request)
    (unchanged : ∀ request ∈ requests, request.host.medium file = .regular contents) :
    ((ofImage file image).answers requests = requests.map fun request =>
      (Bytes.slice (plaintext image contents) request.offset.toNat
          (readable image request.offset request.buffer.length) ++
          request.buffer.drop (readable image request.offset request.buffer.length),
        .ok (readable image request.offset request.buffer.length))) ∧
    (ofImage file image).answers requests = requests.map fun request =>
      ((ofImage file image).read request.host request.offset request.buffer).2 := by
  have opened : (ofImage file image).file = some file := rfl
  have fresh := BlockCache.empty_faithful image contents
  have within := Nat.le_trans inside bounded
  have run := answers_of_faithful opened fresh inside within requests unchanged
  constructor
  · rw [run]
    simp only [ofImage, stretch_eq_slice_plaintext inside]
  · rw [run]
    apply List.map_congr_left
    intro request member
    obtain ⟨next, -, reads⟩ := read_of_faithful opened (unchanged request member) fresh inside
      within request.offset request.buffer
    exact (congrArg Prod.snd reads).symm

def wrappingImage : RomFsImage :=
  ⟨.ofString "/image", 3, 40, .ofKey .zero (-1)⟩

def wrappingHost : Host :=
  ((Host.empty []).addFile ["image"]).setContents 0 (.ofBytes (List.replicate 50 7))

theorem answers_across_wrap :
    ((ofImage ⟨.file 0, false⟩ wrappingImage).answers
      [⟨wrappingHost, 30, List.replicate 20 1⟩, ⟨wrappingHost, 5, List.replicate 30 2⟩,
        ⟨wrappingHost, 40, [3]⟩]).map (·.2) = [.ok 10, .ok 30, .ok 0] := by
  have unchanged : ∀ request ∈ [(⟨wrappingHost, 30, List.replicate 20 1⟩ : Request),
      ⟨wrappingHost, 5, List.replicate 30 2⟩, ⟨wrappingHost, 40, [3]⟩],
      request.host.medium ⟨.file 0, false⟩ = .regular (.ofBytes (List.replicate 50 7)) := by
    intro request member
    simp only [List.mem_cons, List.not_mem_nil, or_false] at member
    rcases member with rfl | rfl | rfl <;> rfl
  rw [(answers_eq_slice_plaintext (by decide) (by decide) _ unchanged).1]
  rfl

end ImageFile

end GuestStorage
