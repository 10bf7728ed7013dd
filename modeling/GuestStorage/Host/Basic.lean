import GuestStorage.Host.Contents
import GuestStorage.Host.Error
import GuestStorage.Host.Path
import GuestStorage.Host.Tree

/-!
# The host

A host is a tree of names, what its files hold, and the directory that relative paths start from. A path
is resolved part by part; `locate` says what stands at its end, or where its last name would go.

These are hosts without symbolic and hard links and without access rights, whose names are all UTF-8. A name has at
most 255 bytes and a position is below 2⁶³; other limits of a machine, such as those on a whole path, on the number
of open files and on the size of one, are left out.
-/

namespace GuestStorage

/-- A file keeps its identity for ever; identities are given out in order. -/
structure Host where
  tree : Tree
  files : List Contents
  workingDirectory : Location
  stored : ∀ id ∈ fileIds tree.entries, id < files.length

/-- Where a path leads: to an entry, or to a name that is free in a directory. -/
inductive Spot
  | found (location : Location) (entry : Entry)
  | missing (parent : Location) (name : String)
  deriving DecidableEq, Repr

namespace Host

def empty (workingDirectory : Location) : Host :=
  ⟨.empty, [], workingDirectory, by simp [fileIds, Tree.empty]⟩

def contents (host : Host) (id : Nat) : Contents := host.files.getD id .empty

def maxNameLength : Nat := 255

/-- Follows the parts of a path from a place. Every place on the way has to be a directory, also before
a part that does not lead away from it. -/
def walk (tree : Tree) (place : Location) : List String → Except HostError Spot
  | [] =>
    match tree.find? place with
    | none => .error .notFound
    | some entry => .ok (.found place entry)
  | part :: rest =>
    match tree.find? place with
    | none => .error .notFound
    | some (.file _) => .error .notADirectory
    | some .directory =>
      if HostPath.isTrivial part then walk tree place rest
      else if part = ".." then walk tree place.dropLast rest
      else if maxNameLength < part.utf8ByteSize then .error .nameTooLong
      else if (tree.find? (place ++ [part])).isSome then walk tree (place ++ [part]) rest
      else if rest.all (· = "") then .ok (.missing place part)
      else .error .notFound

def hasZero (path : HostPath) : Bool := path.parts.any (·.toList.contains '\x00')

def start (host : Host) (path : HostPath) : Location :=
  if path.isAbsolute then [] else host.workingDirectory

def locate (host : Host) (path : HostPath) : Except HostError Spot :=
  if hasZero path then .error .zeroInName
  else if path.isEmpty then .error .notFound
  else walk host.tree (host.start path) path.parts

def lookup (host : Host) (path : HostPath) : Except HostError (Location × Entry) :=
  match host.locate path with
  | .error cause => .error cause
  | .ok (.missing ..) => .error .notFound
  | .ok (.found location entry) => .ok (location, entry)

def entryAt? (host : Host) (path : HostPath) : Option Entry :=
  (host.lookup path).toOption.map (·.2)

def hasEntry (host : Host) (path : HostPath) : Bool := (host.entryAt? path).isSome

def isDirectory (host : Host) (path : HostPath) : Bool := host.entryAt? path = some .directory

def list (host : Host) (path : HostPath) : Except HostError (List (String × Entry)) :=
  match host.lookup path with
  | .error cause => .error cause
  | .ok (_, .file _) => .error .notADirectory
  | .ok (location, .directory) =>
    .ok ((host.tree.children location).mergeSort fun left right => left.1 ≤ right.1)

def addDirectory (host : Host) (location : Location) : Host :=
  { host with
    tree := host.tree.insert location .directory
    stored := by
      intro id member
      rcases Tree.fileIds_insert member with impossible | member
      · simp [Entry.fileId?] at impossible
      · exact host.stored id member }

def addFile (host : Host) (location : Location) : Host :=
  { host with
    tree := host.tree.insert location (.file host.files.length)
    files := host.files ++ [.empty]
    stored := by
      intro id member
      rw [List.length_append]
      rcases Tree.fileIds_insert member with new | member
      · simp only [Entry.fileId?, Option.some.injEq] at new
        simp [new]
      · exact Nat.lt_add_right _ (host.stored id member) }

def setContents (host : Host) (id : Nat) (contents : Contents) : Host :=
  { host with
    files := host.files.set id contents
    stored := by
      intro id member
      rw [List.length_set]
      exact host.stored id member }

def removeAll (host : Host) (location : Location) : Host :=
  { host with
    tree := host.tree.remove location
    stored := fun id member => host.stored id (Tree.fileIds_remove member) }

def move (host : Host) (source target : Location) : Host :=
  { host with
    tree := host.tree.move source target
    stored := by
      rw [Tree.fileIds_move]
      exact host.stored }

end Host

end GuestStorage
