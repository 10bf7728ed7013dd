import GuestStorage.Archive.Status
import GuestStorage.ResultCode.Catalogue

namespace GuestStorage

inductive CodeFamily
  | card
  | save
  deriving DecidableEq, Repr

inductive PathOperation
  | openFile (create : Bool)
  | createFile
  | deleteFile
  | createDirectory
  | deleteDirectory
  | openDirectory
  deriving DecidableEq, Repr

namespace CodeFamily

open ResultCode

def cardRefusal : PathOperation → HostStatus → Option ResultCode
  | .openFile _, .fileFound => none
  | .openFile create, .notFound => if create then none else some notFound
  | .openFile _, .directoryFound => some unexpectedKindOnCard
  | .createFile, .notFound => none
  | .createFile, .directoryFound => some unexpectedKindOnCard
  | .createFile, .fileFound => some alreadyExists
  | .deleteFile, .fileFound => none
  | .deleteFile, .directoryFound => some unexpectedKindOnCard
  | .createDirectory, .notFound => none
  | .createDirectory, .directoryFound | .createDirectory, .fileFound => some alreadyExists
  | .deleteDirectory, .directoryFound => none
  | .deleteDirectory, .fileInPath | .deleteDirectory, .fileFound => some unexpectedKindOnCard
  | .openDirectory, .directoryFound => none
  | .openDirectory, .fileInPath => some unexpectedKindOnCard
  | _, _ => some notFound

def saveRefusal : PathOperation → HostStatus → Option ResultCode
  | .openFile _, .fileFound => none
  | .openFile create, .notFound => if create then none else some fileNotFound
  | .openFile _, .directoryFound => some unexpectedFileOrDirectory
  | .createFile, .notFound => none
  | .createFile, .directoryFound | .createFile, .fileFound => some fileAlreadyExists
  | .deleteFile, .fileFound => none
  | .deleteFile, .fileInPath | .deleteFile, .directoryFound | .deleteFile, .notFound =>
    some fileNotFound
  | .createDirectory, .notFound => none
  | .createDirectory, .directoryFound | .createDirectory, .fileFound =>
    some directoryAlreadyExists
  | .deleteDirectory, .directoryFound => none
  | .deleteDirectory, .fileFound => some unexpectedFileOrDirectory
  | .deleteDirectory, .invalidMountPoint | .deleteDirectory, .notFound => some pathNotFound
  | .openDirectory, .directoryFound => none
  | .openDirectory, .fileFound => some unexpectedFileOrDirectory
  | .openDirectory, .notFound => some pathNotFound
  | _, .pathNotFound => some pathNotFound
  | _, .fileInPath => some unexpectedFileOrDirectory
  | _, .invalidMountPoint => some fileNotFound

/-- The code that refuses an operation on a path of some status; none where it may go on. -/
def refusal : CodeFamily → PathOperation → HostStatus → Option ResultCode
  | card => cardRefusal
  | save => saveRefusal

def rootDeletion : CodeFamily → ResultCode
  | card => notFound
  | save => directoryNotEmpty

def deletionFailed : CodeFamily → ResultCode
  | card => unexpectedKindOnCard
  | save => directoryNotEmpty

def badMode : CodeFamily → ResultCode
  | card => invalidOpenFlags
  | save => unsupportedOpenFlags

def vanished : CodeFamily → ResultCode
  | card => notFound
  | save => fileNotFound

end CodeFamily

end GuestStorage
