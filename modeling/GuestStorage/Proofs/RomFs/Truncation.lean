import GuestStorage.Proofs.RomFs.FailedReads

namespace GuestStorage

def RomFsImage.bare (image : RomFsImage) : RomFsImage := { image with context := .plain }

namespace ImageFile

def present (image : RomFsImage) (contents : Contents) (offset : UInt64) (length : Nat) : Nat :=
  min (readable image offset length) (contents.size - (image.offset.toNat + offset.toNat))

def Request.Addressed (request : Request) (image : RomFsImage) : Prop :=
  request.offset.toNat < image.size.toNat →
    image.offset.toNat + request.offset.toNat < Medium.limit ∧
    image.offset.toNat + request.offset.toNat +
      readable image request.offset request.buffer.length ≤ Medium.limit

variable {file : OpenFile} {image : RomFsImage} {contents : Contents} {self : ImageFile} {request : Request}
  {requests : List Request}

@[simp] theorem length_within (request : Request) (image : RomFsImage) :
    (request.within image).length = readable image request.offset request.buffer.length := by
  rw [Request.within, List.length_take, readable, Nat.min_comm]

structure Serves (file : OpenFile) (image : RomFsImage) (contents : Contents) (handle : ImageFile) : Prop where
  opened : handle.file = some file
  serves : handle.image = image
  faithful : handle.cache.Faithful image contents

theorem Serves.ofImage (file : OpenFile) (image : RomFsImage) (contents : Contents) :
    Serves file image contents (ofImage file image) :=
  ⟨rfl, rfl, BlockCache.empty_faithful image contents⟩

theorem Serves.read (serves : Serves file image contents self) (encrypted : image.context.encrypted = true)
    (stored : request.host.medium file = .regular contents) (addressed : request.Addressed image) :
    Serves file image contents (self.read request.host request.offset request.buffer).1 ∧
      self.answer request =
        (Bytes.stretch (image.plainByte contents) request.offset.toNat
            (readable image request.offset request.buffer.length) ++ request.beyond image,
          .ok (readable image request.offset request.buffer.length)) := by
  obtain ⟨opened, rfl, faithful⟩ := serves
  rw [answer]
  by_cases ended : self.image.size.toNat - request.offset.toNat = 0
  · rw [read_of_ended opened ended, readable, ended, Nat.min_zero, Request.beyond, ended, List.drop_zero]
    exact ⟨⟨opened, rfl, faithful⟩, rfl⟩
  · have reaches := (addressed (by omega)).2
    rw [← length_within] at reaches ⊢
    obtain ⟨next, kept, fills⟩ := BlockCache.fill_of_faithful encrypted self.cache faithful
      request.offset.toNat (request.within self.image) reaches
    rw [read_of_encrypted opened ended encrypted, stored, fills]
    exact ⟨⟨opened, rfl, kept⟩, rfl⟩

theorem Serves.after (serves : Serves file image contents self) (encrypted : image.context.encrypted = true)
    (unchanged : ∀ request ∈ requests, request.host.medium file = .regular contents)
    (addressed : ∀ request ∈ requests, request.Addressed image) :
    Serves file image contents (self.after requests) := by
  induction requests generalizing self with
  | nil => exact serves
  | cons request rest ih =>
      refine ih (serves.read encrypted (unchanged request List.mem_cons_self)
        (addressed request List.mem_cons_self)).1 ?_ ?_
      · exact fun other member => unchanged other (List.mem_cons_of_mem _ member)
      · exact fun other member => addressed other (List.mem_cons_of_mem _ member)

@[simp] theorem after_bare (file : OpenFile) (image : RomFsImage) (requests : List Request) :
    (ofImage file image.bare).after requests = ofImage file image.bare := by
  induction requests with
  | nil => rfl
  | cons request rest ih =>
      have still : ((ofImage file image.bare).read request.host request.offset request.buffer).1 =
          ofImage file image.bare := by
        by_cases ended : image.bare.size.toNat - request.offset.toNat = 0
        · rw [read_of_ended rfl ended]
        · rw [read_of_plain rfl ended Bool.false_ne_true]
      rw [after, List.foldl_cons, still]
      exact ih

theorem answer_bare (stored : request.host.medium file = .regular contents)
    (addressed : request.Addressed image) :
    (ofImage file image.bare).answer request =
      (contents.read (image.offset.toNat + request.offset.toNat)
          (readable image request.offset request.buffer.length) ++
        request.buffer.drop (present image contents request.offset request.buffer.length),
        .ok (present image contents request.offset request.buffer.length)) := by
  have length := contents.length_read (image.offset.toNat + request.offset.toNat)
    (readable image request.offset request.buffer.length)
  rw [← present] at length
  rw [answer]
  by_cases ended : image.size.toNat - request.offset.toNat = 0
  · have nothing : readable image request.offset request.buffer.length = 0 := by
      rw [readable, ended, Nat.min_zero]
    rw [read_of_ended rfl ended, present, nothing, Nat.zero_min]
    simp [Contents.read]
  · have reaches := (addressed (by omega)).1
    have position : (image.offset + .ofNat request.offset.toNat).toNat =
        image.offset.toNat + request.offset.toNat := by
      simp only [Medium.limit] at reaches
      rw [UInt64.toNat_add, UInt64.toNat_ofNat']
      omega
    have rest : (request.within image).drop (present image contents request.offset request.buffer.length) ++
        request.beyond image =
          request.buffer.drop (present image contents request.offset request.buffer.length) := by
      rw [← List.drop_append_of_le_length, Request.within, Request.beyond, List.take_append_drop]
      rw [length_within]
      exact Nat.min_le_left ..
    have takes : received (request.within image) ((request.host.medium file).readAt
        (image.offset + .ofNat request.offset.toNat).toNat (request.within image).length) =
        (contents.read (image.offset.toNat + request.offset.toNat)
            (readable image request.offset request.buffer.length) ++
          (request.within image).drop (present image contents request.offset request.buffer.length),
          .ok (present image contents request.offset request.buffer.length)) := by
      rw [stored, position, Medium.readAt, if_neg (Nat.not_le.mpr reaches), length_within]
      simp only [received, length]
    rw [read_of_plain rfl ended Bool.false_ne_true, ← rest, ← List.append_assoc]
    exact congrArg (fun answer : Bytes × Except HostError Nat =>
      (answer.1 ++ request.beyond image, answer.2.mapError fun _ => ResultCode.operationCanceled)) takes

/-- Reads of one range that is encrypted and of the same range taken as it is, each after any reads on its own
handle. The counts are the same if and only if the file has all that the read asks of the image; the
bytes of the file differ by the keystream, and behind its end the encrypted read answers with the keystream. -/
theorem counts_agree_iff (encrypted : image.context.encrypted = true)
    (unchanged : ∀ other ∈ request :: requests, other.host.medium file = .regular contents)
    (addressed : ∀ other ∈ request :: requests, other.Addressed image) :
    (((ofImage file image).after requests).answer request).2 =
        .ok (readable image request.offset request.buffer.length) ∧
      (((ofImage file image.bare).after requests).answer request).2 =
        .ok (present image contents request.offset request.buffer.length) ∧
      ((((ofImage file image).after requests).answer request).2 =
          (((ofImage file image.bare).after requests).answer request).2 ↔
        readable image request.offset request.buffer.length ≤
          contents.size - (image.offset.toNat + request.offset.toNat)) ∧
      (∀ index, index < present image contents request.offset request.buffer.length →
        (((ofImage file image).after requests).answer request).1.getD index 0 =
          (((ofImage file image.bare).after requests).answer request).1.getD index 0 ^^^
            image.context.keystreamByte (request.offset.toNat + index)) ∧
      ∀ index, present image contents request.offset request.buffer.length ≤ index →
        index < readable image request.offset request.buffer.length →
        (((ofImage file image).after requests).answer request).1.getD index 0 =
          image.context.keystreamByte (request.offset.toNat + index) := by
  have here := unchanged request List.mem_cons_self
  have reaches := addressed request List.mem_cons_self
  have reached := (Serves.ofImage file image contents).after encrypted
    (fun other member => unchanged other (List.mem_cons_of_mem _ member))
    fun other member => addressed other (List.mem_cons_of_mem _ member)
  rw [(reached.read encrypted here reaches).2, after_bare, answer_bare here reaches]
  have size : (contents.read (image.offset.toNat + request.offset.toNat)
      (readable image request.offset request.buffer.length)).length =
        present image contents request.offset request.buffer.length := contents.length_read ..
  have veiled {index : Nat} (inside : index < readable image request.offset request.buffer.length) :
      (Bytes.stretch (image.plainByte contents) request.offset.toNat
          (readable image request.offset request.buffer.length) ++ request.beyond image).getD index 0 =
        contents.byteAt (image.offset.toNat + request.offset.toNat + index) ^^^
          image.context.keystreamByte (request.offset.toNat + index) := by
    simp [List.getElem?_append_left, inside, RomFsImage.plainByte, CounterContext.mask, encrypted, Nat.add_assoc]
  refine ⟨rfl, rfl, ?_, fun index inside => ?_, fun index behind inside => ?_⟩
  · rw [present, Except.ok.injEq]
    omega
  · have stands := inside
    rw [← size] at stands
    rw [veiled (Nat.lt_of_lt_of_le inside (Nat.min_le_left ..)), List.getD_eq_getElem?_getD,
      List.getElem?_append_left stands, List.getElem?_eq_getElem stands, Option.getD_some,
      Contents.getElem_read]
  · rw [veiled inside, Contents.byteAt_eq_zero, UInt8.zero_xor]
    rw [present] at behind
    omega

def truncatedImage : RomFsImage :=
  ⟨.ofString "/c", 0, 32, .ofKey (.ofBytes (List.map UInt8.ofNat (List.range 16))) 0⟩

def truncatedHost : Host :=
  ((Host.empty []).addFile ["c"]).setContents 0 (.ofBytes (List.replicate 20 7))

def readTruncated (offset : UInt64) (length : Nat) : Request :=
  ⟨truncatedHost, offset, List.replicate length 0xAA⟩

theorem counts_agree_before_end :
    (((ofImage ⟨.file 0, false⟩ truncatedImage).after [readTruncated 24 8]).answer (readTruncated 4 16)).2 =
      (((ofImage ⟨.file 0, false⟩ truncatedImage.bare).after [readTruncated 24 8]).answer
        (readTruncated 4 16)).2 := by
  have unchanged : ∀ other ∈ [readTruncated 4 16, readTruncated 24 8],
      other.host.medium ⟨.file 0, false⟩ = .regular (.ofBytes (List.replicate 20 7)) := by
    intro other member
    simp only [List.mem_cons, List.not_mem_nil, or_false] at member
    rcases member with rfl | rfl <;> rfl
  have addressed : ∀ other ∈ [readTruncated 4 16, readTruncated 24 8], other.Addressed truncatedImage := by
    intro other member
    simp only [List.mem_cons, List.not_mem_nil, or_false] at member
    rcases member with rfl | rfl <;> exact fun _ => by decide
  exact (counts_agree_iff rfl unchanged addressed).2.2.1.mpr (by decide)

theorem counts_differ_past_end :
    ((ofImage ⟨.file 0, false⟩ truncatedImage).answer (readTruncated 0 32)).2 = .ok 32 ∧
      ((ofImage ⟨.file 0, false⟩ truncatedImage.bare).answer (readTruncated 0 32)).2 = .ok 20 ∧
      ((ofImage ⟨.file 0, false⟩ truncatedImage).answer (readTruncated 24 8)).2 = .ok 8 ∧
      ((ofImage ⟨.file 0, false⟩ truncatedImage.bare).answer (readTruncated 24 8)).2 = .ok 0 := by
  decide +kernel

end ImageFile

end GuestStorage
