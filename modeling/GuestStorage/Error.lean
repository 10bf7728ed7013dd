import GuestStorage.Container.Error
import GuestStorage.ResultCode.Basic

namespace GuestStorage

inductive StorageError
  | loader (cause : LoaderError)
  | fileSystem (code : ResultCode)
  | io (cause : HostError)
  | config (text : String)
  deriving DecidableEq, Repr

def StorageError.message : StorageError → String
  | loader cause => "Loader error: " ++ cause.message
  | fileSystem code => "File system error: " ++ code.display
  | io cause => "IO error: " ++ cause.message
  | config text => "Config error: " ++ text

end GuestStorage
