import GuestStorage.Archive.Listing
import GuestStorage.Text.Numeral

namespace GuestStorage

def DirectoryEntry.line (entry : DirectoryEntry) : String :=
  (if entry.isDirectory then "d " else "- ") ++ Numeral.alignRight 12 (toString entry.size) ++ " " ++
    Numeral.alignLeft 8 (Utf8.decode entry.shortName.stem) ++ "." ++
    Numeral.alignLeft 3 (Utf8.decode entry.shortName.extension) ++ " " ++ entry.name

namespace Listing

variable {listing next : Listing} {count : UInt64} {batch : List DirectoryEntry}

theorem eq_of_read (done : listing.read count = some (batch, next)) :
    batch = (listing.entries.drop listing.position).take count.toNat ∧
      next = { listing with position := listing.position + batch.length } := by
  rw [read] at done
  split at done
  · contradiction
  · cases done
    exact ⟨rfl, rfl⟩

theorem remaining_of_read (done : listing.read count = some (batch, next)) :
    next.entries.drop next.position = (listing.entries.drop listing.position).drop batch.length := by
  rw [(eq_of_read done).2, List.drop_drop]

theorem batch_of_read (done : listing.read count = some (batch, next)) :
    batch <+: listing.entries.drop listing.position := by
  rw [(eq_of_read done).1]
  exact List.take_prefix ..

def pageSize : UInt64 := 32

def readAll (listing : Listing) : List DirectoryEntry :=
  match _ : listing.read pageSize with
  | none => []
  | some (page, next) => if page = [] then [] else page ++ next.readAll
termination_by (listing.entries.drop listing.position).length
decreasing_by
  rename_i done nonempty
  have fewer := (batch_of_read done).length_le
  have some := List.length_pos_iff.mpr nonempty
  rw [remaining_of_read done, List.length_drop]
  omega

end Listing

end GuestStorage
