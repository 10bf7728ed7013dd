import GuestStorage.Guest.ShortName
import GuestStorage.Text.Utf8

namespace GuestStorage

structure DirectoryEntry where
  name : String
  isDirectory : Bool
  size : Nat
  deriving DecidableEq, Repr

namespace DirectoryEntry

def shortName (entry : DirectoryEntry) : ShortName := .ofName (Utf8.encode entry.name)

def isHidden (entry : DirectoryEntry) : Bool := entry.name.toList.head? = some '.'

/-- Every file looks as if it had never been backed up. -/
def isArchive (entry : DirectoryEntry) : Bool := !entry.isDirectory

def isReadOnly (_ : DirectoryEntry) : Bool := false

end DirectoryEntry

end GuestStorage
