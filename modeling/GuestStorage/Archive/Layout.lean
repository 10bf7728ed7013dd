import GuestStorage.Guest.Path
import GuestStorage.Host.Path

namespace GuestStorage.Layout

def upperWord (word : UInt32) : String := Numeral.fixedUpper 8 word.toNat

def lowerWord (word : UInt32) : String := Numeral.fixedLower 8 word.toNat

def joinText (base : HostPath) (text : String) : HostPath := base.join (.ofString text)

def cardContainer (card : HostPath) (systemId cardId : String) : HostPath :=
  joinText (joinText (card.child "Nintendo 3DS") systemId) cardId

def nandContainer (nand : HostPath) (systemId : String) : HostPath :=
  joinText (nand.child "data") systemId

/-- Shared extended save data is kept on the internal memory, the rest on the SD card. -/
def extContainer (root : HostPath) (shared : Bool) (systemId cardId : String) : HostPath :=
  (if shared then nandContainer root systemId else cardContainer root systemId cardId).child
    "extdata"

def systemContainer (nand : HostPath) (systemId : String) : HostPath :=
  (nandContainer nand systemId).child "sysdata"

def titleContainer (card : HostPath) (systemId cardId : String) : HostPath :=
  (cardContainer card systemId cardId).child "title"

def extInstance (container : HostPath) (path : GuestPath) : HostPath :=
  (container.child (upperWord (path.word 2))).child (upperWord (path.word 1))

/-- The path holds the high word and the low word; the directories nest the other way round. -/
def systemInstance (container : HostPath) (path : GuestPath) : HostPath :=
  (container.child (upperWord (path.word 1))).child (upperWord (path.word 0))

def titleData (container : HostPath) (programId : UInt64) : HostPath :=
  ((container.child (lowerWord (programId >>> 32).toUInt32)).child
    (lowerWord programId.toUInt32)).child "data"

def titleInstance (container : HostPath) (programId : UInt64) : HostPath :=
  (titleData container programId).child "00000001"

def titleMetadata (container : HostPath) (programId : UInt64) : HostPath :=
  (titleData container programId).child "metadata"

end GuestStorage.Layout
