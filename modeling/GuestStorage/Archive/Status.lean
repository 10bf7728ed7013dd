import GuestStorage.Guest.PathGrammar
import GuestStorage.Host.Basic

namespace GuestStorage

inductive HostStatus
  | invalidMountPoint
  | pathNotFound
  | fileInPath
  | directoryFound
  | fileFound
  | notFound
  deriving DecidableEq, Repr

namespace HostStatus

def name : HostStatus → String
  | invalidMountPoint => "InvalidMountPoint"
  | pathNotFound => "PathNotFound"
  | fileInPath => "FileInPath"
  | directoryFound => "DirectoryFound"
  | fileFound => "FileFound"
  | notFound => "NotFound"

end HostStatus

def HostPath.descendant (mountPoint : HostPath) (segments : List String) : HostPath :=
  segments.foldl HostPath.child mountPoint

namespace Host

def leafStatus (host : Host) (path : HostPath) : HostStatus :=
  match host.entryAt? path with
  | none => .notFound
  | some .directory => .directoryFound
  | some (.file _) => .fileFound

def statusBelow (host : Host) (directory : HostPath) : List String → HostStatus
  | [] => .directoryFound
  | [last] => host.leafStatus (directory.child last)
  | segment :: rest =>
    match host.entryAt? (directory.child segment) with
    | none => .pathNotFound
    | some (.file _) => .fileInPath
    | some .directory => host.statusBelow (directory.child segment) rest

def status (host : Host) (mountPoint : HostPath) (segments : List String) : HostStatus :=
  if host.isDirectory mountPoint then host.statusBelow mountPoint segments else .invalidMountPoint

end Host

end GuestStorage
