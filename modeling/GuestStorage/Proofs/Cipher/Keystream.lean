import GuestStorage.Cipher.CounterMode

namespace GuestStorage.CounterContext

def keystreamByte (context : CounterContext) (position : Nat) : UInt8 :=
  (context.keystreamBlock (position / blockSize)).getD (position % blockSize) 0

/-- What a byte at a position of the region is combined with. -/
def mask (context : CounterContext) (position : Nat) : UInt8 :=
  if context.encrypted then context.keystreamByte position else 0

@[simp] theorem length_keystreamBlock (context : CounterContext) (index : Nat) :
    (context.keystreamBlock index).length = blockSize := Aes.Block.length_toBytes _

@[simp] theorem getElem_keystreamBlock (context : CounterContext) (index : Nat) {within : Nat}
    (inside : within < (context.keystreamBlock index).length) :
    (context.keystreamBlock index)[within] =
      context.keystreamByte (blockSize * index + within) := by
  have inside : within < blockSize := by simpa using inside
  have block : (blockSize * index + within) / blockSize = index := by
    simp only [blockSize] at inside ⊢
    omega
  have place : (blockSize * index + within) % blockSize = within := by
    simp only [blockSize] at inside ⊢
    omega
  simp [keystreamByte, block, place, inside]

theorem keystream_succ (context : CounterContext) (first count : Nat) :
    context.keystream first (count + 1) =
      context.keystreamBlock first ++ context.keystream (first + 1) count := by
  rw [keystream, List.range'_succ, List.flatMap_cons]
  rfl

@[simp] theorem length_keystream (context : CounterContext) (first count : Nat) :
    (context.keystream first count).length = blockSize * count := by
  induction count generalizing first with
  | zero => rfl
  | succ count ih =>
      simp [keystream_succ, ih, Nat.mul_succ, Nat.add_comm]

@[simp] theorem getElem_keystream (context : CounterContext) (first count : Nat) {index : Nat}
    (inside : index < (context.keystream first count).length) :
    (context.keystream first count)[index] =
      context.keystreamByte (blockSize * first + index) := by
  induction count generalizing first index with
  | zero => simp at inside
  | succ count ih =>
      by_cases near : index < blockSize
      · simp only [keystream_succ]
        rw [List.getElem_append_left (by simpa), getElem_keystreamBlock]
      · have position : blockSize * first + index =
            blockSize * (first + 1) + (index - blockSize) := by
          simp only [blockSize] at near ⊢
          omega
        simp only [keystream_succ]
        rw [List.getElem_append_right (by simp; omega), position]
        exact ih (first + 1) _

@[simp] theorem keystreamBlock_advanced (context : CounterContext) (blocks index : Nat) :
    (context.advanced blocks).keystreamBlock index = context.keystreamBlock (blocks + index) := by
  simp only [keystreamBlock, advanced, Counter.add, BitVec.ofNat_add, BitVec.add_assoc]

@[simp] theorem mask_advanced (context : CounterContext) (blocks position : Nat) :
    (context.advanced blocks).mask position = context.mask (blockSize * blocks + position) := by
  have block : (blockSize * blocks + position) / blockSize = blocks + position / blockSize :=
    Nat.mul_add_div (by decide) blocks position
  have place : (blockSize * blocks + position) % blockSize = position % blockSize :=
    Nat.mul_add_mod_self_left ..
  simp only [mask, keystreamByte, keystreamBlock_advanced, block, place]
  rfl

theorem applyKeystream_eq (context : CounterContext) (offset : Nat) (data : Bytes) :
    context.applyKeystream offset data =
      data.mapIdx fun index byte => byte ^^^ context.mask (offset + index) := by
  rw [applyKeystream]
  split
  · rename_i encrypted
    have enough : data.length ≤ blockSize *
        ((offset % blockSize + data.length + (blockSize - 1)) / blockSize) - offset % blockSize := by
      simp only [blockSize]
      omega
    apply List.ext_getElem
    · simp [Bytes.xor]
      omega
    · intro index left right
      have position : blockSize * (offset / blockSize) + (offset % blockSize + index) =
          offset + index := by
        simp only [blockSize]
        omega
      simp [Bytes.xor, mask, encrypted, position]
  · rename_i plain
    apply List.ext_getElem (by simp)
    intro index left right
    simp [mask, if_neg plain]

@[simp] theorem length_applyKeystream (context : CounterContext) (offset : Nat) (data : Bytes) :
    (context.applyKeystream offset data).length = data.length := by
  rw [applyKeystream_eq, List.length_mapIdx]

end GuestStorage.CounterContext
