import GuestStorage.Guest.DirectoryEntry
import GuestStorage.Host.File

namespace GuestStorage

structure Listing where
  entries : List DirectoryEntry
  position : Nat
  deriving DecidableEq, Repr

namespace Listing

def empty : Listing := ⟨[], 0⟩

def ofDirectory (host : Host) (path : HostPath) : Listing :=
  match host.list path with
  | .error _ => empty
  | .ok children =>
    ⟨children.map fun child => ⟨child.1, child.2.isDirectory, host.sizeOf child.2⟩, 0⟩

/-- Up to `count` further entries; none where position and count do not fit a word of 64 bits. -/
def read (listing : Listing) (count : UInt64) : Option (List DirectoryEntry × Listing) :=
  if UInt64.size ≤ listing.position + count.toNat then none
  else
    let batch := (listing.entries.drop listing.position).take count.toNat
    some (batch, { listing with position := listing.position + batch.length })

end Listing

end GuestStorage
