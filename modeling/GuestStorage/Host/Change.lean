import GuestStorage.Host.Basic

/-!
# Changing the tree

The calls by which names come and go. A call that fails changes nothing, apart from two: what
`createDirectories` made on the way stays, and `removeDirectoryTree` empties also a directory that it then
cannot remove.
-/

namespace GuestStorage.Host

def createDirectory (host : Host) (path : HostPath) : Except HostError Host :=
  match host.locate path with
  | .error cause => .error cause
  | .ok (.found ..) => .error .alreadyExists
  | .ok (.missing parent name) => .ok (host.addDirectory (parent ++ [name]))

/-- Goes down from a directory and makes the missing ones; the last name is not made where a point
stands behind it. -/
def descend (host : Host) (place : Location) : List String → Host × Except HostError Unit
  | [] => (host, .ok ())
  | part :: rest =>
    if HostPath.isTrivial part then descend host place rest
    else if part = ".." then descend host place.dropLast rest
    else if maxNameLength < part.utf8ByteSize then (host, .error .nameTooLong)
    else
      match host.tree.find? (place ++ [part]) with
      | some .directory => descend host (place ++ [part]) rest
      | some (.file _) =>
        (host, .error (if rest.all HostPath.isTrivial then .alreadyExists else .notADirectory))
      | none =>
        if rest.contains "." && rest.all HostPath.isTrivial then (host, .error .notFound)
        else descend (host.addDirectory (place ++ [part])) (place ++ [part]) rest

def createDirectories (host : Host) (path : HostPath) : Host × Except HostError Unit :=
  if hasZero path then (host, .error .zeroInName)
  else host.descend (host.start path) path.parts

def removeDirectory (host : Host) (path : HostPath) : Except HostError Host :=
  match host.lookup path with
  | .error cause => .error cause
  | .ok (_, .file _) => .error .notADirectory
  | .ok (location, .directory) =>
    if location = [] ∨ !path.endsInName then .error .invalidArgument
    else if host.tree.children location = [] then .ok (host.removeAll location)
    else .error .directoryNotEmpty

def clear (host : Host) (location : Location) : Host :=
  (host.removeAll location).addDirectory location

/-- Removes a directory with all that is in it. One that is not called by its name is emptied and stays. -/
def removeDirectoryTree (host : Host) (path : HostPath) : Host × Except HostError Unit :=
  match host.lookup path with
  | .error cause => (host, .error cause)
  | .ok (_, .file _) => (host, .error .notADirectory)
  | .ok (location, .directory) =>
    if location = [] then (host, .error .invalidArgument)
    else if path.endsInName then (host.removeAll location, .ok ())
    else (host.clear location, .error .invalidArgument)

def removeFile (host : Host) (path : HostPath) : Except HostError Host :=
  match host.lookup path with
  | .error cause => .error cause
  | .ok (_, .directory) => .error .isADirectory
  | .ok (location, .file _) => .ok (host.removeAll location)

def createFile (host : Host) (path : HostPath) : Except HostError (Host × Nat) :=
  if path.isEmpty then .error .notFound
  else
    match host.locate path.trimmed with
    | .error cause => if path.trimmed.isEmpty then .error .isADirectory else .error cause
    | .ok (.found _ .directory) => .error .isADirectory
    | .ok (.found _ (.file id)) =>
      if path.endsInSlash then .error .isADirectory else .ok (host.setContents id .empty, id)
    | .ok (.missing parent name) =>
      if path.endsInSlash then .error .isADirectory
      else .ok (host.addFile (parent ++ [name]), host.files.length)

def replace (host : Host) (source : Location) (entry : Entry) (target : Location) (old : Entry) :
    Except HostError Host :=
  match entry, old with
  | .directory, .file _ => .error .notADirectory
  | .file _, .directory => .error .isADirectory
  | .file _, .file _ => .ok ((host.removeAll target).move source target)
  | .directory, .directory =>
    if source.isPrefixOf target then .error .invalidArgument
    else if host.tree.children target = [] then .ok ((host.removeAll target).move source target)
    else .error .directoryNotEmpty

/-- A rename onto the same entry does nothing. A file replaces a file, a directory an empty directory;
nothing moves into itself, and both paths have to end in a name. -/
def rename (host : Host) (source target : HostPath) : Except HostError Host :=
  if !source.endsInName || !target.endsInName then .error .busy
  else
    match host.lookup source, host.locate target with
    | .error cause, _ => .error cause
    | _, .error cause => .error cause
    | .ok (sourceLocation, entry), .ok (.found targetLocation old) =>
      if sourceLocation = targetLocation then .ok host
      else if sourceLocation = [] ∨ targetLocation = [] then .error .invalidArgument
      else host.replace sourceLocation entry targetLocation old
    | .ok (sourceLocation, entry), .ok (.missing parent name) =>
      if sourceLocation = [] ∨ sourceLocation.isPrefixOf (parent ++ [name]) then
        .error .invalidArgument
      else if target.endsInSlash ∧ !entry.isDirectory then .error .notADirectory
      else .ok (host.move sourceLocation (parent ++ [name]))

end GuestStorage.Host
