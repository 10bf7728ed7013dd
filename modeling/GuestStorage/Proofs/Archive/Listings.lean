import GuestStorage.CommandLine.Run
import GuestStorage.Proofs.Archive.DiskOperations
import GuestStorage.Proofs.Host.Obstacles
import GuestStorage.Proofs.Text.Utf8

namespace GuestStorage

theorem Tree.sorted_children (tree : Tree) (location : Location) :
    ((tree.children location).mergeSort fun left right => left.1 ≤ right.1).Pairwise fun left right =>
      left.1 < right.1 := by
  have ordered : ((tree.children location).mergeSort fun left right => left.1 ≤ right.1).Pairwise
      fun left right => decide (left.1 ≤ right.1) = true := by
    apply List.pairwise_mergeSort
    · intro first second third
      simpa only [decide_eq_true_eq] using String.le_trans
    · intro first second
      simpa using String.le_total first.1 second.1
  have kept := (List.mergeSort_perm (tree.children location) fun left right => left.1 ≤ right.1).symm
  have distinct := kept.pairwise (tree.children_pairwise_ne location) Ne.symm
  refine (ordered.and distinct).imp fun ⟨most, apart⟩ => String.not_le.mp fun least => apart ?_
  exact String.le_antisymm (of_decide_eq_true most) least

structure ListsInOrder (host : Host) (location : Location) (listing : Listing) : Prop
    extends Lists host location listing where
  sorted : listing.entries.Pairwise fun left right => Utf8.encode left.name < Utf8.encode right.name

theorem Host.listsInOrder_ofDirectory {host : Host} {path : HostPath} {location : Location}
    (opened : host.lookup path = .ok (location, .directory)) :
    ListsInOrder host location (.ofDirectory host path) := by
  refine ⟨lists_ofDirectory opened, ?_⟩
  simp only [Listing.ofDirectory, list, opened, List.pairwise_map]
  exact (host.tree.sorted_children location).imp Utf8.encode_lt_encode

namespace Listing

variable {listing next : Listing} {count : UInt64} {batch : List DirectoryEntry}

theorem read_eq_none_iff : listing.read count = none ↔ UInt64.size ≤ listing.position + count.toNat := by
  rw [read]
  split <;> simp_all

theorem length_of_read (done : listing.read count = some (batch, next)) :
    batch.length = min count.toNat (listing.entries.length - listing.position) := by
  rw [(eq_of_read done).1, List.length_take, List.length_drop]

theorem append_of_read (done : listing.read count = some (batch, next)) :
    batch ++ next.entries.drop next.position = listing.entries.drop listing.position := by
  obtain ⟨rest, whole⟩ := batch_of_read done
  rw [remaining_of_read done, ← whole, List.drop_left]

theorem readAll_eq (fits : listing.entries.length + pageSize.toNat < UInt64.size)
    (inside : listing.position ≤ listing.entries.length) :
    listing.readAll = listing.entries.drop listing.position := by
  induction listing using readAll.induct with
  | case1 listing refused =>
      have large := read_eq_none_iff.mp refused
      omega
  | case2 listing next done =>
      have ended : 0 = min pageSize.toNat (listing.entries.length - listing.position) := length_of_read done
      rw [readAll, done, List.drop_eq_nil_of_le (by simp [pageSize] at ended; omega)]
      rfl
  | case3 listing page next done nonempty ih =>
      have size := length_of_read done
      have onward : next.readAll = next.entries.drop next.position := by
        rw [(eq_of_read done).2] at ih ⊢
        exact ih fits (by dsimp only; omega)
      rw [readAll, done]
      dsimp only
      rw [if_neg nonempty, onward, append_of_read done]

end Listing

structure OpenListing where
  host : Host
  listing : Listing

namespace OpenListing

def start (host : Host) (path : HostPath) : OpenListing := ⟨host, .ofDirectory host path⟩

inductive Event
  | hostBecomes (host : Host)
  | read (count : UInt64)

def run (opened : OpenListing) : List Event → OpenListing × List (Option (List DirectoryEntry))
  | [] => (opened, [])
  | .hostBecomes host :: rest => run { opened with host } rest
  | .read count :: rest =>
    match opened.listing.read count with
    | none =>
      let (last, answers) := run opened rest
      (last, none :: answers)
    | some (batch, listing) =>
      let (last, answers) := run { opened with listing } rest
      (last, some batch :: answers)

def handedOut (answers : List (Option (List DirectoryEntry))) : List DirectoryEntry :=
  answers.reduceOption.flatten

theorem run_append (opened : OpenListing) (first second : List Event) :
    (opened.run (first ++ second)).2 =
      (opened.run first).2 ++ ((opened.run first).1.run second).2 := by
  induction first generalizing opened with
  | nil => rfl
  | cons event rest ih =>
      cases event with
      | hostBecomes host => exact ih _
      | read count =>
          simp only [List.cons_append, run]
          split <;> simp only [ih, List.cons_append]

/-- The entries are those of the beginning, and what was handed out of them is what lies behind. -/
structure Advanced (listing next : Listing) (given : List DirectoryEntry) : Prop where
  entries : next.entries = listing.entries
  position : next.position = listing.position + given.length
  inOrder : given <+: listing.entries.drop listing.position

theorem Advanced.read {listing next last : Listing} {count : UInt64} {batch given : List DirectoryEntry}
    (done : listing.read count = some (batch, next)) (later : Advanced next last given) :
    Advanced listing last (batch ++ given) where
  entries := by rw [later.entries, (Listing.eq_of_read done).2]
  position := by rw [later.position, (Listing.eq_of_read done).2, List.length_append, Nat.add_assoc]
  inOrder := by
    rw [← Listing.append_of_read done]
    exact (List.prefix_append_right_inj batch).mpr later.inOrder

theorem run_advanced (opened : OpenListing) (events : List Event) :
    Advanced opened.listing (opened.run events).1.listing (handedOut (opened.run events).2) := by
  induction events generalizing opened with
  | nil => exact ⟨rfl, rfl, List.nil_prefix⟩
  | cons event rest ih =>
      cases event with
      | hostBecomes host => exact ih { opened with host }
      | read count =>
          cases answer : opened.listing.read count with
          | none =>
              simp only [run, answer]
              exact ih opened
          | some done =>
              simp only [run, answer]
              exact (ih { opened with listing := done.2 }).read answer

/-- What a read has to be answered when some of the entries are handed out already. -/
structure Answered (entries given : List DirectoryEntry) (count : UInt64)
    (answer : Option (List DirectoryEntry)) : Prop where
  fails : answer = none ↔ UInt64.size ≤ given.length + count.toNat
  length : ∀ batch, answer = some batch → batch.length = min count.toNat (entries.length - given.length)

theorem run_answered {opened : OpenListing} (unread : opened.listing.position = 0) (events : List Event)
    (count : UInt64) :
    ∃ answer, (opened.run (events ++ [.read count])).2 = (opened.run events).2 ++ [answer] ∧
      Answered opened.listing.entries (handedOut (opened.run events).2) count answer := by
  have advanced := run_advanced opened events
  have position : (opened.run events).1.listing.position = (handedOut (opened.run events).2).length := by
    rw [advanced.position, unread, Nat.zero_add]
  rw [run_append, run]
  cases answer : (opened.run events).1.listing.read count with
  | none =>
      have large := Listing.read_eq_none_iff.mp answer
      rw [position] at large
      exact ⟨none, rfl, by simp [large], nofun⟩
  | some done =>
      obtain ⟨batch, next⟩ := done
      refine ⟨some batch, rfl, ?_, ?_⟩
      · rw [← position, ← Listing.read_eq_none_iff, answer]
        simp
      · rintro _ ⟨⟩
        rw [Listing.length_of_read answer, advanced.entries, position]

end OpenListing

theorem Command.runList_of_directory {host : Host} {directory : HostPath} {path : GuestPath}
    {segments : List String} (mounted : host.isDirectory directory = true)
    (parsed : path.segments? = some segments)
    (found : host.isDirectory (directory.descendant segments) = true)
    (few : (Listing.ofDirectory host (directory.descendant segments)).entries.length + Listing.pageSize.toNat <
      UInt64.size) :
    runList host directory path =
      .ok ((Listing.ofDirectory host (directory.descendant segments)).entries.map DirectoryEntry.line) := by
  have lists : Mount.openDirectory ⟨.sdCard, directory⟩ host path =
      .ok (.ofDirectory host (directory.descendant segments)) :=
    Mount.openDirectory_of_directory nofun mounted parsed found
  have unread := (Host.lists_ofDirectory (Host.isDirectory_iff.mp found)).position
  rw [runList, if_pos mounted, lists]
  dsimp only
  rw [Listing.readAll_eq few (by simp [unread]), unread, List.drop_zero]

/-- Every read of a directory goes on where the last one ended, in what the directory held when it was opened,
and a loop over pages shows it all. -/
theorem listed_lossless {host : Host} {path : HostPath} (directory : host.isDirectory path = true) :
    ListsInOrder host (host.site path) (.ofDirectory host path) ∧
      (∀ (events : List OpenListing.Event) (count : UInt64),
        let entries := (Listing.ofDirectory host path).entries
        let answers := ((OpenListing.start host path).run events).2
        OpenListing.handedOut answers <+: entries ∧
          ∃ answer, ((OpenListing.start host path).run (events ++ [.read count])).2 = answers ++ [answer] ∧
            OpenListing.Answered entries (OpenListing.handedOut answers) count answer) ∧
      ∀ (mountPoint : HostPath) (guestPath : GuestPath) (segments : List String),
        host.isDirectory mountPoint = true → guestPath.segments? = some segments →
          path = mountPoint.descendant segments →
            (Listing.ofDirectory host path).entries.length + Listing.pageSize.toNat < UInt64.size →
              Command.runList host mountPoint guestPath =
                .ok ((Listing.ofDirectory host path).entries.map DirectoryEntry.line) := by
  have lists := Host.listsInOrder_ofDirectory (Host.isDirectory_iff.mp directory)
  refine ⟨lists, fun events count => ⟨?_, OpenListing.run_answered lists.position events count⟩, ?_⟩
  · have inOrder := (OpenListing.run_advanced (.start host path) events).inOrder
    rwa [OpenListing.start, lists.position, List.drop_zero] at inOrder
  · rintro mountPoint guestPath segments mounted parsed rfl few
    exact Command.runList_of_directory mounted parsed directory few

theorem entries_singleFile : Listing.ofDirectory Host.singleFile (.ofString "/m") = ⟨[⟨"f", false, 0⟩], 0⟩ := by
  decide +kernel

theorem listed_lossless_singleFile :
    Host.singleFile.isDirectory (.ofString "/m") = true ∧
      Command.runList Host.singleFile (.ofString "/m") (.char "/") =
        .ok ["-            0 F       .    f"] := by
  have directory : Host.singleFile.isDirectory (.ofString "/m") = true := by decide +kernel
  have shown := (listed_lossless directory).2.2 (.ofString "/m") (.char "/") [] directory (by decide) rfl
    (by rw [entries_singleFile]; decide)
  rw [entries_singleFile] at shown
  refine ⟨directory, shown.trans ?_⟩
  decide +kernel

theorem largest_count_fails :
    ((OpenListing.start Host.singleFile (.ofString "/m")).run [.read 1, .read 0xFFFFFFFFFFFFFFFF]).2 =
      [some [⟨"f", false, 0⟩], none] := by
  rw [OpenListing.start, entries_singleFile]
  rfl

end GuestStorage
