import GuestStorage.Cipher.Aes

/-!
# Counter mode

A context is a key and a counter. Block `n` of its keystream is the encryption of the counter moved
`n` blocks forward; data at any position of a region is combined with the keystream at that position.
`keystreamBlock` makes one block, `applyKeystream` a whole run of them.
-/

namespace GuestStorage

/-- A counter of 128 bits, written with its most significant byte first; it wraps. -/
abbrev Counter := BitVec 128

namespace Counter

def ofBytes (data : Bytes) : Counter := .ofNat 128 (Bytes.toNatBE (Bytes.fit 16 data))

def toBytes (counter : Counter) : Bytes := Bytes.ofNatBE 16 counter.toNat

def add (counter : Counter) (blocks : Nat) : Counter := counter + .ofNat 128 blocks

end Counter

structure CounterContext where
  key : Aes.Block
  counter : Counter
  encrypted : Bool
  deriving DecidableEq, Repr

namespace CounterContext

def blockSize : Nat := 16

def plain : CounterContext := ⟨.zero, 0, false⟩

def ofKey (key : Aes.Block) (counter : Counter) : CounterContext := ⟨key, counter, true⟩

def advanced (context : CounterContext) (blocks : Nat) : CounterContext :=
  { context with counter := context.counter.add blocks }

def blockUnder (keys : List Aes.Block) (counter : Counter) : Bytes :=
  (Aes.encryptWith keys (.ofBytes counter.toBytes)).toBytes

def keystreamBlock (context : CounterContext) (index : Nat) : Bytes :=
  blockUnder (Aes.roundKeys context.key) (context.counter.add index)

def keystream (context : CounterContext) (first count : Nat) : Bytes :=
  let keys := Aes.roundKeys context.key
  (List.range' first count).flatMap fun index => blockUnder keys (context.counter.add index)

/-- Encrypts or decrypts data that starts `offset` bytes into the region. -/
def applyKeystream (context : CounterContext) (offset : Nat) (data : Bytes) : Bytes :=
  if context.encrypted then
    let before := offset % blockSize
    let count := (before + data.length + (blockSize - 1)) / blockSize
    Bytes.xor data ((context.keystream (offset / blockSize) count).drop before)
  else data

end CounterContext

end GuestStorage
