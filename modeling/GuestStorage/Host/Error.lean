namespace GuestStorage

inductive HostError
  | notFound
  | badHandle
  | busy
  | alreadyExists
  | notADirectory
  | isADirectory
  | invalidArgument
  | fileTooLarge
  | nameTooLong
  | directoryNotEmpty
  | zeroInName
  | endOfFile
  | other (text : String)
  deriving DecidableEq, Repr

namespace HostError

def message : HostError → String
  | notFound => "No such file or directory (os error 2)"
  | badHandle => "Bad file descriptor (os error 9)"
  | busy => "Device or resource busy (os error 16)"
  | alreadyExists => "File exists (os error 17)"
  | notADirectory => "Not a directory (os error 20)"
  | isADirectory => "Is a directory (os error 21)"
  | invalidArgument => "Invalid argument (os error 22)"
  | fileTooLarge => "File too large (os error 27)"
  | nameTooLong => "File name too long (os error 36)"
  | directoryNotEmpty => "Directory not empty (os error 39)"
  | zeroInName => "file name contained an unexpected NUL byte"
  | endOfFile => "failed to fill whole buffer"
  | other text => text

end HostError

end GuestStorage
