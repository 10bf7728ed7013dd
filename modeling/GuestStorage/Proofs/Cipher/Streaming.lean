import GuestStorage.Proofs.Bytes
import GuestStorage.Proofs.Cipher.Keystream

namespace GuestStorage

namespace Counter

@[simp] theorem toNatBE_toBytes (counter : Counter) : Bytes.toNatBE counter.toBytes = counter.toNat := by
  have fits : counter.toNat < Nat.pow 256 16 := counter.isLt
  rw [← Nat.mod_eq_of_lt fits]
  simp [toBytes, Bytes.toNatBE, Bytes.ofNatBE]

theorem toNatBE_add (counter : Counter) (blocks : Nat) :
    Bytes.toNatBE (counter.add blocks).toBytes = (Bytes.toNatBE counter.toBytes + blocks) % Nat.pow 2 128 := by
  simp [add]

end Counter

namespace CounterContext

theorem applyKeystream_append (context : CounterContext) (offset : Nat) (first second : Bytes) :
    context.applyKeystream offset (first ++ second) =
      context.applyKeystream offset first ++ context.applyKeystream (offset + first.length) second := by
  simp only [applyKeystream_eq, List.mapIdx_append, Nat.add_assoc, Nat.add_comm first.length]

@[simp] theorem applyKeystream_applyKeystream (context : CounterContext) (offset : Nat) (data : Bytes) :
    context.applyKeystream offset (context.applyKeystream offset data) = data := by
  rw [applyKeystream_eq, applyKeystream_eq, List.mapIdx_mapIdx]
  apply List.ext_getElem (by simp)
  intro index left right
  rw [List.getElem_mapIdx, Function.comp_apply, UInt8.xor_assoc, UInt8.xor_self, UInt8.xor_zero]

theorem applyKeystream_advanced (context : CounterContext) (blocks offset : Nat) (data : Bytes) :
    (context.advanced blocks).applyKeystream offset data =
      context.applyKeystream (offset + blockSize * blocks) data := by
  simp only [applyKeystream_eq, mask_advanced, Nat.add_comm offset, Nat.add_assoc]

/-- Data is combined with single blocks, byte by byte; pieces can be worked on one after another, the same
piece twice gives it back, and an advanced context is one that starts so many blocks later. -/
structure Streams (context : CounterContext) : Prop where
  block : ∀ index, (context.keystreamBlock index).length = blockSize
  bytes : ∀ offset data, context.applyKeystream offset data =
    data.mapIdx fun index byte => byte ^^^
      Bytes.byteAt (context.keystreamBlock ((offset + index) / blockSize)) ((offset + index) % blockSize)
  pieces : ∀ offset first second, context.applyKeystream offset (first ++ second) =
    context.applyKeystream offset first ++ context.applyKeystream (offset + first.length) second
  twice : ∀ offset data, context.applyKeystream offset (context.applyKeystream offset data) = data
  advanced : ∀ blocks offset data, (context.advanced blocks).applyKeystream offset data =
    context.applyKeystream (offset + blockSize * blocks) data
  advancedTwice : ∀ first second index, ((context.advanced first).advanced second).keystreamBlock index =
    (context.advanced (first + second)).keystreamBlock index
  counter : ∀ blocks, Bytes.toNatBE (context.advanced blocks).counter.toBytes =
    (Bytes.toNatBE context.counter.toBytes + blocks) % Nat.pow 2 128

theorem ofKey_streams (key : Aes.Block) (counter : Counter) : (ofKey key counter).Streams where
  block := length_keystreamBlock _
  bytes offset data := by
    rw [applyKeystream_eq]
    simp only [mask, ofKey, if_true, keystreamByte, Bytes.byteAt]
  pieces := applyKeystream_append _
  twice := applyKeystream_applyKeystream _
  advanced := applyKeystream_advanced _
  advancedTwice first second index := by
    simp [Nat.add_assoc]
  counter := counter.toNatBE_add

example : (ofKey .zero (BitVec.allOnes 128)).advanced 1 = ofKey .zero 0 := by decide

end CounterContext

end GuestStorage
