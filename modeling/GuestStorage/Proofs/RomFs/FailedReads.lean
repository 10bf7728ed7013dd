import GuestStorage.Proofs.RomFs.CachedReads

/-!
# Reading an image where some reads fail

A block that the host refuses is gone from the cache, yet the cache still names the block that was there
before: it holds zeros in its place, and a later read of that block gets them. `BlockCache.Sound` is what
holds of a cache after any reads of one file, and `answer_after_eq_fresh_iff` says which reads it spoils.
-/

namespace GuestStorage

namespace BlockCache

variable {cache : BlockCache} {medium : Medium} {image : RomFsImage} {failed : Prop}

def fetch (medium : Medium) (image : RomFsImage) (block : Nat) : Except HostError Bytes :=
  (empty.load medium image block).2

theorem empty_misses (block : Nat) : empty.index ≠ some block := nofun

theorem load_of_hit {block : Nat} (hit : cache.index = some block) :
    cache.load medium image block = (cache, .ok cache.data) := by
  rw [load, if_pos hit]

theorem load_of_miss {block : Nat} (miss : cache.index ≠ some block) :
    cache.load medium image block =
      match fetch medium image block with
      | .error cause => ({ cache with data := empty.data }, .error cause)
      | .ok data => (⟨some block, data⟩, .ok data) := by
  rw [fetch, load, if_neg miss, load, if_neg (empty_misses block)]
  dsimp only
  cases medium.readAt (image.offset + .ofNat (block * CounterContext.blockSize)).toNat
    CounterContext.blockSize <;> rfl

theorem load_of_refused {block : Nat} {cause : HostError} (miss : cache.index ≠ some block)
    (refused : fetch medium image block = .error cause) :
    cache.load medium image block = ({ cache with data := empty.data }, .error cause) := by
  rw [load_of_miss miss, refused]

theorem load_of_fetched {block : Nat} {data : Bytes} (miss : cache.index ≠ some block)
    (fetched : fetch medium image block = .ok data) :
    cache.load medium image block = (⟨some block, data⟩, .ok data) := by
  rw [load_of_miss miss, fetched]

theorem length_of_fetch {block : Nat} {data : Bytes} (fetched : fetch medium image block = .ok data) :
    data.length = CounterContext.blockSize := by
  rw [fetch, load, if_neg (empty_misses block)] at fetched
  dsimp only at fetched
  split at fetched
  · contradiction
  · cases fetched
    simp [Bytes.xor]

/-- The block that the cache names can be had from the medium. The cache holds it, or zeros in its place,
these only after something has failed. -/
structure Sound (failed : Prop) (medium : Medium) (image : RomFsImage) (cache : BlockCache) : Prop where
  whole : cache.data.length = CounterContext.blockSize
  named : ∀ block, cache.index = some block → ∃ data, fetch medium image block = .ok data ∧
    (cache.data = data ∨ failed ∧ cache.data = empty.data)

theorem Sound.empty (medium : Medium) (image : RomFsImage) : Sound False medium image .empty :=
  ⟨Bytes.length_fit .., fun _ => nofun⟩

theorem Sound.mono {later : Prop} (implies : failed → later) (sound : Sound failed medium image cache) :
    Sound later medium image cache where
  whole := sound.whole
  named block names := by
    obtain ⟨data, fetched, holds⟩ := sound.named block names
    exact ⟨data, fetched, holds.imp_right (.imp_left implies)⟩

theorem Sound.of_fetch (failed : Prop) {block : Nat} {data : Bytes}
    (fetched : fetch medium image block = .ok data) :
    Sound failed medium image ⟨some block, data⟩ where
  whole := length_of_fetch fetched
  named other names := by
    rw [← Option.some.inj names]
    exact ⟨data, fetched, .inl rfl⟩

theorem Sound.blanked (sound : Sound failed medium image cache) :
    Sound True medium image { cache with data := BlockCache.empty.data } where
  whole := Bytes.length_fit ..
  named block names := by
    obtain ⟨data, fetched, -⟩ := sound.named block names
    exact ⟨data, fetched, .inr ⟨trivial, rfl⟩⟩

theorem fill_of_ne_nil (medium : Medium) (image : RomFsImage) (position : Nat) {buffer : Bytes}
    (nonempty : buffer ≠ []) :
    ∃ count, 0 < count ∧ count = min (CounterContext.blockSize - position % CounterContext.blockSize)
        buffer.length ∧
      (buffer.drop count = [] ∨ (position + count) / CounterContext.blockSize =
        position / CounterContext.blockSize + 1) ∧
      (∀ (cache next : BlockCache) cause,
        cache.load medium image (position / CounterContext.blockSize) = (next, .error cause) →
        cache.fill medium image position buffer = (next, buffer, .error cause)) ∧
      ∀ (cache next : BlockCache) data,
        cache.load medium image (position / CounterContext.blockSize) = (next, .ok data) →
        cache.fill medium image position buffer =
          let rest := next.fill medium image (position + count) (buffer.drop count)
          (rest.1, Bytes.slice data (position % CounterContext.blockSize) count ++ rest.2.1, rest.2.2) := by
  have filled := List.length_pos_iff.mpr nonempty
  have short : position % CounterContext.blockSize < CounterContext.blockSize :=
    Nat.mod_lt _ (by decide)
  refine ⟨_, ?_, rfl, ?_, fun cache next cause loads => ?_, fun cache next data loads => ?_⟩
  · omega
  · rw [List.drop_eq_nil_iff]
    simp only [CounterContext.blockSize] at short ⊢
    omega
  · simp only [fill.eq_1 cache, if_neg nonempty, loads]
  · simp only [fill.eq_1 cache, if_neg nonempty, loads, List.length_take]

theorem Sound.fill {cache : BlockCache} (sound : Sound failed medium image cache) (position : Nat)
    (buffer : Bytes) :
    Sound (failed ∨ ∃ cause, (cache.fill medium image position buffer).2.2 = .error cause) medium image
        (cache.fill medium image position buffer).1 ∧
      (cache.fill medium image position buffer).2.1.length = buffer.length := by
  by_cases done : buffer = []
  · rw [BlockCache.fill, if_pos done, done]
    exact ⟨sound.mono .inl, rfl⟩
  · obtain ⟨count, positive, cut, -, fails, fills⟩ := fill_of_ne_nil medium image position done
    have part {data : Bytes} (whole : data.length = CounterContext.blockSize) (rest : Bytes)
        (filled : rest.length = (buffer.drop count).length) :
        (Bytes.slice data (position % CounterContext.blockSize) count ++ rest).length =
          buffer.length := by
      simp only [Bytes.slice, List.length_append, List.length_take, List.length_drop] at filled ⊢
      omega
    have shorter : (buffer.drop count).length < buffer.length := by
      rw [List.length_drop]
      omega
    by_cases hit : cache.index = some (position / CounterContext.blockSize)
    · rw [fills _ _ _ (load_of_hit hit)]
      have later := sound.fill (position + count) (buffer.drop count)
      exact ⟨later.1, part sound.whole _ later.2⟩
    · cases fetched : fetch medium image (position / CounterContext.blockSize) with
      | error cause =>
          rw [fails _ _ _ (load_of_refused hit fetched)]
          exact ⟨sound.blanked.mono fun _ => .inr ⟨cause, rfl⟩, rfl⟩
      | ok data =>
          rw [fills _ _ _ (load_of_fetched hit fetched)]
          have later := (Sound.of_fetch failed fetched).fill (position + count) (buffer.drop count)
          exact ⟨later.1, part (length_of_fetch fetched) _ later.2⟩
termination_by buffer.length

def Spoiled (cache : BlockCache) (block : Nat) : Prop :=
  cache.index = some block ∧ cache.data = empty.data

theorem fill_of_miss {position : Nat} {buffer : Bytes}
    (miss : cache.index ≠ some (position / CounterContext.blockSize)) :
    (cache.fill medium image position buffer).2 = (empty.fill medium image position buffer).2 := by
  by_cases done : buffer = []
  · rw [fill, if_pos done, fill, if_pos done]
  · obtain ⟨count, -, -, -, fails, fills⟩ := fill_of_ne_nil medium image position done
    cases fetched : fetch medium image (position / CounterContext.blockSize) with
    | error cause =>
        rw [fails _ _ _ (load_of_refused miss fetched),
          fails _ _ _ (load_of_refused (empty_misses _) fetched)]
    | ok data =>
        rw [fills _ _ _ (load_of_fetched miss fetched),
          fills _ _ _ (load_of_fetched (empty_misses _) fetched)]

theorem slice_empty {offset count : Nat} (inside : offset + count ≤ CounterContext.blockSize) :
    Bytes.slice empty.data offset count = List.replicate count 0 := by
  simp only [Bytes.slice, empty, Bytes.fit, List.take_nil, List.nil_append, List.length_nil,
    Nat.sub_zero, List.drop_replicate, List.take_replicate]
  rw [Nat.min_eq_left (by omega)]

theorem fill_eq_fresh_iff (sound : Sound failed medium image cache) (position : Nat) (buffer : Bytes) :
    (cache.fill medium image position buffer).2.2 = (empty.fill medium image position buffer).2.2 ∧
      ((cache.fill medium image position buffer).2.1 = (empty.fill medium image position buffer).2.1 ↔
        (cache.Spoiled (position / CounterContext.blockSize) →
          ∀ byte ∈ (empty.fill medium image position buffer).2.1.take
            (min (CounterContext.blockSize - position % CounterContext.blockSize) buffer.length),
            byte = 0)) ∧
      ((cache.fill medium image position buffer).2.1 = (empty.fill medium image position buffer).2.1 ∨
        failed) := by
  by_cases done : buffer = []
  · rw [fill, if_pos done, fill, if_pos done]
    simp
  by_cases hit : cache.index = some (position / CounterContext.blockSize)
  · obtain ⟨data, fetched, holds⟩ := sound.named _ hit
    obtain ⟨count, positive, cut, boundary, -, fills⟩ := fill_of_ne_nil medium image position done
    -- Behind the first block the cache is of no use, so that both go on like a fresh one.
    have onward (next : BlockCache) (names : next.index = cache.index) :
        (next.fill medium image (position + count) (buffer.drop count)).2 =
          (empty.fill medium image (position + count) (buffer.drop count)).2 := by
      rcases boundary with ended | boundary
      · rw [ended, fill, if_pos rfl, fill, if_pos rfl]
      · refine fill_of_miss ?_
        rw [names, hit, boundary]
        simp
    have inside : position % CounterContext.blockSize + count ≤ CounterContext.blockSize := by
      have : position % CounterContext.blockSize < CounterContext.blockSize := Nat.mod_lt _ (by decide)
      omega
    have size : (Bytes.slice data (position % CounterContext.blockSize) count).length = count := by
      have := length_of_fetch fetched
      simp only [Bytes.slice, List.length_take, List.length_drop]
      omega
    rw [fills _ _ _ (load_of_hit hit), fills _ _ _ (load_of_fetched (empty_misses _) fetched)]
    simp only [onward cache rfl, onward ⟨some _, data⟩ hit.symm, ← cut, List.append_cancel_right_eq]
    refine ⟨trivial, ?_⟩
    rw [List.take_append_of_le_length (Nat.le_of_eq size.symm), List.take_of_length_le (Nat.le_of_eq size)]
    rcases holds with right | ⟨earlier, zeros⟩
    · rw [right]
      refine ⟨iff_of_true rfl fun spoiled byte member => ?_, .inl rfl⟩
      rw [← right, spoiled.2, slice_empty inside] at member
      exact List.eq_of_mem_replicate member
    · rw [zeros, slice_empty inside]
      refine ⟨⟨?_, ?_⟩, .inr earlier⟩
      · intro same _ byte member
        rw [← same] at member
        exact List.eq_of_mem_replicate member
      · intro blank
        exact (List.eq_replicate_iff.mpr ⟨size, blank ⟨hit, zeros⟩⟩).symm
  · rw [fill_of_miss hit]
    exact ⟨rfl, iff_of_true rfl fun spoiled => absurd spoiled.1 hit, .inl rfl⟩

end BlockCache

namespace ImageFile

def answer (self : ImageFile) (request : Request) : Bytes × Except ResultCode Nat :=
  (self.read request.host request.offset request.buffer).2

def after (self : ImageFile) (requests : List Request) : ImageFile :=
  requests.foldl (fun self request => (self.read request.host request.offset request.buffer).1) self

def Request.within (request : Request) (image : RomFsImage) : Bytes :=
  request.buffer.take (image.size.toNat - request.offset.toNat)

def Request.beyond (request : Request) (image : RomFsImage) : Bytes :=
  request.buffer.drop (image.size.toNat - request.offset.toNat)

def firstPart (image : RomFsImage) (offset : UInt64) (length : Nat) : Nat :=
  min (CounterContext.blockSize - offset.toNat % CounterContext.blockSize) (readable image offset length)

def Spoils (self : ImageFile) (offset : UInt64) : Prop :=
  self.image.context.encrypted = true ∧ self.cache.Spoiled (offset.toNat / CounterContext.blockSize)

variable {file : OpenFile} {image : RomFsImage} {medium : Medium} {failed : Prop} {self : ImageFile}

theorem read_of_ended {request : Request} (opened : self.file = some file)
    (ended : self.image.size.toNat - request.offset.toNat = 0) :
    self.read request.host request.offset request.buffer = (self, request.buffer, .ok 0) := by
  simp only [ImageFile.read, opened, if_pos ended]

theorem read_of_plain {request : Request} (opened : self.file = some file)
    (inside : self.image.size.toNat - request.offset.toNat ≠ 0)
    (plain : ¬ self.image.context.encrypted = true) :
    self.read request.host request.offset request.buffer =
      let answer := received (request.within self.image)
        ((request.host.medium file).readAt (self.image.offset + .ofNat request.offset.toNat).toNat
          (request.within self.image).length)
      (self, answer.1 ++ request.beyond self.image, answer.2.mapError fun _ => .operationCanceled) := by
  simp only [ImageFile.read, opened, if_neg inside, readRange, if_neg plain]
  rfl

theorem read_of_encrypted {request : Request} (opened : self.file = some file)
    (inside : self.image.size.toNat - request.offset.toNat ≠ 0)
    (encrypted : self.image.context.encrypted = true) :
    self.read request.host request.offset request.buffer =
      let filled := self.cache.fill (request.host.medium file) self.image request.offset.toNat
        (request.within self.image)
      ({ self with cache := filled.1 }, filled.2.1 ++ request.beyond self.image,
        (filled.2.2.map fun () => (request.within self.image).length).mapError
          fun _ => .operationCanceled) := by
  simp only [ImageFile.read, opened, if_neg inside, readRange, if_pos encrypted]
  rfl

structure Holds (failed : Prop) (file : OpenFile) (image : RomFsImage) (medium : Medium)
    (handle : ImageFile) : Prop where
  opened : handle.file = some file
  serves : handle.image = image
  sound : handle.cache.Sound failed medium image

theorem Holds.read (holds : Holds failed file image medium self) {request : Request}
    (unchanged : request.host.medium file = medium) :
    Holds (failed ∨ ∃ code, (self.answer request).2 = .error code) file image medium
      (self.read request.host request.offset request.buffer).1 := by
  obtain ⟨opened, rfl, sound⟩ := holds
  have kept : Holds (failed ∨ ∃ code, (self.answer request).2 = .error code) file self.image medium
      self := ⟨opened, rfl, sound.mono .inl⟩
  rw [answer] at kept ⊢
  by_cases ended : self.image.size.toNat - request.offset.toNat = 0
  · rw [read_of_ended opened ended] at kept ⊢
    exact kept
  · by_cases encrypted : self.image.context.encrypted = true
    · rw [read_of_encrypted opened ended encrypted, unchanged]
      have filled := (sound.fill request.offset.toNat (request.within self.image)).1
      refine ⟨opened, rfl, filled.mono (.imp_right fun ⟨cause, fails⟩ => ?_)⟩
      simp only [fails]
      exact ⟨_, rfl⟩
    · rw [read_of_plain opened ended encrypted] at kept ⊢
      exact kept

theorem Holds.after (requests : List Request) (holds : Holds failed file image medium self)
    (unchanged : ∀ request ∈ requests, request.host.medium file = medium) :
    Holds (failed ∨ ∃ answer ∈ self.answers requests, ∃ code, answer.2 = .error code) file image medium
      (self.after requests) := by
  induction requests generalizing self failed with
  | nil => exact ⟨holds.opened, holds.serves, holds.sound.mono .inl⟩
  | cons request rest ih =>
      have later := ih (holds.read (unchanged request List.mem_cons_self))
        fun other member => unchanged other (List.mem_cons_of_mem _ member)
      refine ⟨later.opened, later.serves, later.sound.mono ?_⟩
      rintro ((before | fails) | ⟨answer, member, fails⟩)
      · exact .inl before
      · exact .inr ⟨_, List.mem_cons_self, fails⟩
      · exact .inr ⟨answer, List.mem_cons_of_mem _ member, fails⟩

theorem Holds.answer_eq_fresh_iff (holds : Holds failed file image medium self) {request : Request}
    (unchanged : request.host.medium file = medium) :
    (self.answer request = (ofImage file image).answer request ↔
      (self.Spoils request.offset → ∀ byte ∈ ((ofImage file image).answer request).1.take
        (firstPart image request.offset request.buffer.length), byte = 0)) ∧
      (self.answer request = (ofImage file image).answer request ∨ failed) := by
  obtain ⟨opened, rfl, sound⟩ := holds
  have fresh : (ofImage file self.image).file = some file := rfl
  rw [answer, answer]
  by_cases ended : self.image.size.toNat - request.offset.toNat = 0
  · have nothing : firstPart self.image request.offset request.buffer.length = 0 := by
      rw [firstPart, readable, ended, Nat.min_zero, Nat.min_zero]
    rw [read_of_ended opened ended, read_of_ended fresh ended, nothing, List.take_zero]
    exact ⟨iff_of_true rfl fun _ _ member => absurd member List.not_mem_nil, .inl rfl⟩
  · by_cases encrypted : self.image.context.encrypted = true
    · obtain ⟨same, iff, equal⟩ := BlockCache.fill_eq_fresh_iff sound request.offset.toNat
        (request.within self.image)
      have length := ((BlockCache.Sound.empty medium self.image).fill request.offset.toNat
        (request.within self.image)).2
      have part : firstPart self.image request.offset request.buffer.length =
          min (CounterContext.blockSize - request.offset.toNat % CounterContext.blockSize)
            (request.within self.image).length := by
        rw [firstPart, readable, Request.within, List.length_take, Nat.min_comm request.buffer.length]
      rw [read_of_encrypted opened ended encrypted, read_of_encrypted fresh ended encrypted, unchanged,
        part]
      simp only [ofImage, same, Prod.mk.injEq, and_true, List.append_cancel_right_eq, Spoils, encrypted,
        true_and]
      rw [List.take_append_of_le_length (by omega)]
      exact ⟨iff, equal⟩
    · rw [read_of_plain opened ended encrypted, read_of_plain fresh ended encrypted]
      exact ⟨iff_of_true rfl fun spoils => absurd spoils.1 encrypted, .inl rfl⟩

/-- After any reads of a file that does not change, a read answers like one of a fresh handle if and only
if it does not start in a block that is spoiled, or what a fresh handle gets of that block is zero. While
every read has succeeded it always does. -/
theorem answer_after_eq_fresh_iff {requests : List Request} {request : Request}
    (unchanged : ∀ other ∈ request :: requests, other.host.medium file = medium) :
    (((ofImage file image).after requests).answer request = (ofImage file image).answer request ↔
      (((ofImage file image).after requests).Spoils request.offset →
        ∀ byte ∈ ((ofImage file image).answer request).1.take
          (firstPart image request.offset request.buffer.length), byte = 0)) ∧
      ((∀ earlier ∈ (ofImage file image).answers requests, ∃ count, earlier.2 = .ok count) →
        ((ofImage file image).after requests).answer request = (ofImage file image).answer request) := by
  have fresh : Holds False file image medium (ofImage file image) := ⟨rfl, rfl, .empty medium image⟩
  have reached := fresh.after requests fun other member => unchanged other (List.mem_cons_of_mem _ member)
  obtain ⟨iff, equal⟩ := reached.answer_eq_fresh_iff (unchanged request List.mem_cons_self)
  refine ⟨iff, fun succeeded => equal.resolve_right ?_⟩
  rintro (impossible | ⟨earlier, member, code, failed⟩)
  · exact impossible
  · obtain ⟨count, worked⟩ := succeeded earlier member
    rw [worked] at failed
    cases failed

def endlessImage : RomFsImage :=
  ⟨.ofString "/c", 0, 0x8000000000000010, .ofKey (.ofBytes (List.map UInt8.ofNat (List.range 16))) 0⟩

def endlessHost : Host :=
  ((Host.empty []).addFile ["c"]).setContents 0 (.ofBytes (List.replicate 32 7))

def readOf (offset : UInt64) : Request := ⟨endlessHost, offset, List.replicate 16 0⟩

theorem answer_after_success_eq_fresh :
    ((ofImage ⟨.file 0, false⟩ endlessImage).after [readOf 16]).answer (readOf 24) =
      (ofImage ⟨.file 0, false⟩ endlessImage).answer (readOf 24) := by
  have unchanged : ∀ other ∈ [readOf 24, readOf 16],
      other.host.medium ⟨.file 0, false⟩ = .regular (.ofBytes (List.replicate 32 7)) := by
    intro other member
    simp only [List.mem_cons, List.not_mem_nil, or_false] at member
    rcases member with rfl | rfl <;> rfl
  refine (answer_after_eq_fresh_iff unchanged).2 fun earlier member => ⟨16, ?_⟩
  revert earlier
  decide +kernel

theorem answer_after_failure_ne_fresh :
    ((ofImage ⟨.file 0, false⟩ endlessImage).after [readOf 0, readOf 0x8000000000000000]).answer
        (readOf 0) = (List.replicate 16 0, .ok 16) ∧
      (ofImage ⟨.file 0, false⟩ endlessImage).answer (readOf 0) ≠ (List.replicate 16 0, .ok 16) := by
  have spoiled : (ofImage ⟨.file 0, false⟩ endlessImage).after [readOf 0, readOf 0x8000000000000000] =
      ⟨some ⟨.file 0, false⟩, endlessImage, ⟨some 0, List.replicate 16 0⟩⟩ := by decide +kernel
  rw [spoiled]
  decide +kernel

end ImageFile

end GuestStorage
