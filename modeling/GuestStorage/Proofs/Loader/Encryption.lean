import GuestStorage.Proofs.Cipher.Keystream
import GuestStorage.Proofs.Loader.Headers

namespace GuestStorage

structure Extent where
  start : Nat
  length : Nat
  deriving DecidableEq, Repr

namespace Extent

def Holds (extent : Extent) (position : Nat) : Prop :=
  extent.start ≤ position ∧ position < extent.start + extent.length

instance (extent : Extent) (position : Nat) : Decidable (extent.Holds position) :=
  inferInstanceAs (Decidable (_ ∧ _))

def Apart (left right : Extent) : Prop :=
  left.length = 0 ∨ right.length = 0 ∨ left.start + left.length ≤ right.start ∨
    right.start + right.length ≤ left.start

instance (left right : Extent) : Decidable (left.Apart right) :=
  inferInstanceAs (Decidable (_ ∨ _ ∨ _ ∨ _))

theorem Apart.not_holds {left right : Extent} {position : Nat} (apart : left.Apart right)
    (inside : left.Holds position) : ¬ right.Holds position := by
  intro also
  simp only [Apart, Holds] at apart inside also
  omega

theorem Apart.symm {left right : Extent} (apart : left.Apart right) : right.Apart left := by
  simp only [Apart] at apart ⊢
  omega

end Extent

structure Veil where
  extent : Extent
  context : CounterContext
  offset : Nat

namespace Veil

def maskAt (veil : Veil) (position : Nat) : UInt8 :=
  if veil.extent.Holds position then
    veil.context.mask (veil.offset + (position - veil.extent.start))
  else 0

def maskOf (veils : List Veil) (position : Nat) : UInt8 :=
  veils.foldr (fun veil rest => veil.maskAt position ^^^ rest) 0

def encrypt (veils : List Veil) (contents : Contents) : Bytes :=
  Bytes.stretch (fun position => contents.byteAt position ^^^ maskOf veils position) 0 contents.size

theorem maskOf_of_unveiled {veils : List Veil} {position : Nat}
    (outside : ∀ veil ∈ veils, ¬ veil.extent.Holds position) : maskOf veils position = 0 := by
  induction veils with
  | nil => rfl
  | cons veil rest ih =>
      have clear : veil.maskAt position = 0 := if_neg (outside veil List.mem_cons_self)
      rw [maskOf, List.foldr_cons, clear, UInt8.zero_xor]
      exact ih fun other member => outside other (List.mem_cons_of_mem _ member)

theorem maskOf_of_member {veils : List Veil} {veil : Veil} {position : Nat}
    (apart : veils.Pairwise fun left right => left.extent.Apart right.extent)
    (member : veil ∈ veils) (inside : veil.extent.Holds position) :
    maskOf veils position = veil.maskAt position := by
  induction veils with
  | nil => cases member
  | cons first rest ih =>
      obtain ⟨separate, later⟩ := List.pairwise_cons.mp apart
      rw [maskOf, List.foldr_cons]
      rcases List.mem_cons.mp member with rfl | member
      · have clear := maskOf_of_unveiled fun other among => (separate other among).not_holds inside
        rw [maskOf] at clear
        rw [clear, UInt8.xor_zero]
      · have clear : first.maskAt position = 0 :=
          if_neg ((separate veil member).symm.not_holds inside)
        rw [clear, UInt8.zero_xor]
        exact ih later member

section

variable {veils : List Veil} {plain encrypted : Contents}

theorem size_of_encrypt (bytes : encrypted.toBytes = encrypt veils plain) :
    encrypted.size = plain.size := by
  rw [← Contents.length_toBytes, bytes, encrypt, Bytes.length_stretch]

theorem byteAt_of_encrypt (bytes : encrypted.toBytes = encrypt veils plain) {position : Nat}
    (inside : position < plain.size) :
    encrypted.byteAt position = plain.byteAt position ^^^ maskOf veils position := by
  have stored : position < encrypted.toBytes.length := by
    simpa [size_of_encrypt bytes]
  rw [← Contents.getElem_toBytes encrypted stored]
  simp [bytes, encrypt]

theorem read_unveiled (bytes : encrypted.toBytes = encrypt veils plain) {extent : Extent}
    (clear : ∀ veil ∈ veils, extent.Apart veil.extent) :
    encrypted.read extent.start extent.length = plain.read extent.start extent.length := by
  have size := size_of_encrypt bytes
  apply List.ext_getElem
  · simp [size]
  · intro index left right
    simp only [Contents.length_read] at right
    have inside : extent.Holds (extent.start + index) := ⟨Nat.le_add_right .., by omega⟩
    have untouched := maskOf_of_unveiled fun veil member =>
      (clear veil member).not_holds inside
    rw [Contents.getElem_read, Contents.getElem_read, byteAt_of_encrypt bytes (by omega),
      untouched, UInt8.xor_zero]

theorem read_veiled (bytes : encrypted.toBytes = encrypt veils plain) {veil : Veil}
    (apart : veils.Pairwise fun left right => left.extent.Apart right.extent)
    (member : veil ∈ veils) :
    veil.context.applyKeystream veil.offset
        (encrypted.read veil.extent.start veil.extent.length) =
      plain.read veil.extent.start veil.extent.length := by
  have size := size_of_encrypt bytes
  rw [CounterContext.applyKeystream_eq]
  apply List.ext_getElem
  · simp [size]
  · intro index left right
    simp only [Contents.length_read] at right
    have inside : veil.extent.Holds (veil.extent.start + index) :=
      ⟨Nat.le_add_right .., by omega⟩
    have mask : maskOf veils (veil.extent.start + index) =
        veil.context.mask (veil.offset + index) := by
      rw [maskOf_of_member apart member inside, maskAt, if_pos inside, Nat.add_sub_cancel_left]
    rw [List.getElem_mapIdx, Contents.getElem_read, Contents.getElem_read, byteAt_of_encrypt bytes (by omega), mask,
      UInt8.xor_assoc, UInt8.xor_self, UInt8.xor_zero]

theorem readExact_unveiled (bytes : encrypted.toBytes = encrypt veils plain) {extent : Extent}
    (clear : ∀ veil ∈ veils, extent.Apart veil.extent) :
    (Medium.regular encrypted).readExact extent.start extent.length =
      (Medium.regular plain).readExact extent.start extent.length := by
  simp only [Medium.readExact, Medium.readAt, read_unveiled bytes clear]

theorem readExact_veiled (bytes : encrypted.toBytes = encrypt veils plain) {veil : Veil}
    (apart : veils.Pairwise fun left right => left.extent.Apart right.extent)
    (member : veil ∈ veils) :
    ((Medium.regular encrypted).readExact veil.extent.start veil.extent.length).map
        (veil.context.applyKeystream veil.offset) =
      (Medium.regular plain).readExact veil.extent.start veil.extent.length := by
  have same := read_veiled bytes apart member
  have length : (encrypted.read veil.extent.start veil.extent.length).length =
      (plain.read veil.extent.start veil.extent.length).length := by
    rw [← same, CounterContext.length_applyKeystream]
  simp only [Medium.readExact, Medium.readAt]
  by_cases below : Medium.limit ≤ veil.extent.start
  · simp only [if_pos below, Except.map]
  · simp only [if_neg below, length]
    by_cases short : (plain.read veil.extent.start veil.extent.length).length < veil.extent.length
    · simp only [if_pos short, Except.map]
    · simp only [if_neg short, Except.map, same]

theorem readExact_of_veiled (bytes : encrypted.toBytes = encrypt veils plain) {veil : Veil}
    (apart : veils.Pairwise fun left right => left.extent.Apart right.extent)
    (member : veil ∈ veils) {data : Bytes}
    (reads : (Medium.regular plain).readExact veil.extent.start veil.extent.length = .ok data) :
    ∃ hidden,
      (Medium.regular encrypted).readExact veil.extent.start veil.extent.length = .ok hidden ∧
        veil.context.applyKeystream veil.offset hidden = data := by
  rw [← readExact_veiled bytes apart member] at reads
  cases stored : (Medium.regular encrypted).readExact veil.extent.start veil.extent.length with
  | error cause =>
      rw [stored] at reads
      contradiction
  | ok hidden =>
      rw [stored] at reads
      exact ⟨hidden, rfl, Except.ok.inj reads⟩

end

end Veil

namespace Loader

def extendedExtent (loader : Loader) : Extent :=
  ⟨loader.containerOffset + ContainerHeader.size, ExtendedHeader.size⟩

def tableExtent (loader : Loader) : Extent :=
  ⟨loader.containerOffset + loader.exeFsOffset, SectionTable.size⟩

def sectionExtent (loader : Loader) (entry : Section) : Extent :=
  ⟨loader.containerOffset + loader.exeFsOffset + (entry.offset.toNat + SectionTable.size),
    entry.size.toNat⟩

def parts (loader : Loader) : List Extent :=
  loader.extendedExtent :: loader.tableExtent :: loader.sections.map loader.sectionExtent

def clearParts (loader : Loader) : List Extent :=
  [⟨0, ContainerHeader.size⟩, ⟨loader.containerOffset, ContainerHeader.size⟩]

/-- No part of the container overlaps another one. -/
structure Separate (loader : Loader) : Prop where
  apart : loader.parts.Pairwise Extent.Apart
  clear : ∀ header ∈ loader.clearParts, ∀ part ∈ loader.parts, header.Apart part

def veilSlot (loader : Loader) (entry : Section) : KeySlot :=
  if loader.header.usesSecondKey ∧ entry.name = Utf8.encode codeName then .second else .first

def extendedVeil (loader : Loader) (crypto : ContainerCrypto) : Veil :=
  ⟨loader.extendedExtent, loader.regionContext crypto .first crypto.counters.extendedHeader, 0⟩

def tableVeil (loader : Loader) (crypto : ContainerCrypto) : Veil :=
  ⟨loader.tableExtent, loader.regionContext crypto .first crypto.counters.exeFs, 0⟩

def sectionVeil (loader : Loader) (crypto : ContainerCrypto) (entry : Section) : Veil :=
  ⟨loader.sectionExtent entry,
    loader.regionContext crypto (loader.veilSlot entry) crypto.counters.exeFs,
    entry.offset.toNat + SectionTable.size⟩

def veils (loader : Loader) (crypto : ContainerCrypto) : List Veil :=
  loader.extendedVeil crypto :: loader.tableVeil crypto ::
    loader.sections.map (loader.sectionVeil crypto)

@[simp] theorem map_extent_veils (loader : Loader) (crypto : ContainerCrypto) :
    (loader.veils crypto).map Veil.extent = loader.parts := by
  simp only [veils, parts, List.map_cons, List.map_map]
  rfl

theorem Separate.pairwise {loader : Loader} (separate : loader.Separate)
    (crypto : ContainerCrypto) :
    (loader.veils crypto).Pairwise fun left right => left.extent.Apart right.extent := by
  have apart := separate.apart
  rwa [← map_extent_veils loader crypto, List.pairwise_map] at apart

theorem Separate.unveiled {loader : Loader} (separate : loader.Separate)
    (crypto : ContainerCrypto) {header : Extent} (listed : header ∈ loader.clearParts) :
    ∀ veil ∈ loader.veils crypto, header.Apart veil.extent := by
  intro veil member
  apply separate.clear header listed
  rw [← map_extent_veils loader crypto]
  exact List.mem_map_of_mem member

end Loader

end GuestStorage
