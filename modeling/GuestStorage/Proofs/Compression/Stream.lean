import GuestStorage.Container.Lzss

namespace GuestStorage.Lzss

structure BackReference where
  length : Nat
  field : Nat
  length_ge : 3 ≤ length
  length_le : length ≤ 18
  field_lt : field < 0x1000
  deriving DecidableEq

inductive Token
  | literal (byte : UInt8)
  | copy (reference : BackReference)
  deriving DecidableEq

def Token.isCopy : Token → Bool
  | literal _ => false
  | copy _ => true

def repeatFrom (index : Nat) : Nat → Bytes → Option Bytes
  | 0, text => some text
  | count + 1, text =>
    match text[index]? with
    | none => none
    | some byte => repeatFrom index count (byte :: text)

def Token.prepend (text : Bytes) : Token → Option Bytes
  | literal byte => some (byte :: text)
  | copy reference => repeatFrom (reference.field + 2) reference.length text

def denote (tokens : List Token) : Option Bytes := tokens.foldlM Token.prepend []

def BackReference.word (reference : BackReference) : Nat :=
  ((reference.length - 3) <<< 12) ||| reference.field

def Token.stored : Token → Bytes
  | literal byte => [byte]
  | copy reference => Bytes.ofNatLE 2 reference.word

/-- The control byte tells the kind of each token, from its highest bit on; other bits are free. -/
def Marks (control : UInt8) (tokens : List Token) : Prop :=
  ∀ place (inside : place < tokens.length),
    control.toNat.testBit (7 - place) = tokens[place].isCopy

instance (control : UInt8) (tokens : List Token) : Decidable (Marks control tokens) :=
  inferInstanceAs (Decidable (∀ place (_ : place < tokens.length), _))

def storedGroup (control : UInt8) (tokens : List Token) : Bytes :=
  tokens.reverse.flatMap Token.stored ++ [control]

/-- The bytes, in the order of their addresses, in which a token list can be stored. Only the lowest
group may be short. -/
inductive Layout : List Token → Bytes → Prop
  | empty : Layout [] []
  | lowest (control : UInt8) (tokens : List Token) (marked : Marks control tokens)
      (short : tokens.length ≤ 8) : Layout tokens (storedGroup control tokens)
  | above (control : UInt8) (tokens rest : List Token) (stored : Bytes)
      (marked : Marks control tokens) (full : tokens.length = 8) (below : Layout rest stored) :
      Layout (tokens ++ rest) (stored ++ storedGroup control tokens)

def footer (top bottom growth : Nat) : Bytes :=
  Bytes.ofNatLE 4 (top * 0x1000000 + bottom) ++ Bytes.ofNatLE 4 growth

def reach (stored padding : Bytes) : Nat := stored.length + padding.length + footerSize

/-- A stream behind bytes that are not compressed, with padding behind it, and a footer that makes the
buffer grow to `total` bytes. -/
def packed (plain stored padding : Bytes) (total : Nat) : Bytes :=
  plain ++ stored ++ padding ++
    footer (padding.length + footerSize) (reach stored padding)
      (total - (plain.length + reach stored padding))

@[simp] theorem length_packed (plain stored padding : Bytes) (total : Nat) :
    (packed plain stored padding total).length = plain.length + reach stored padding := by
  simp [packed, footer, reach, footerSize]
  omega

end GuestStorage.Lzss
