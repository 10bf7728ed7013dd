import GuestStorage.Cipher.CounterMode
import GuestStorage.Host.Path

namespace GuestStorage

structure RomFsImage where
  path : HostPath
  offset : UInt64
  size : UInt64
  context : CounterContext
  deriving DecidableEq, Repr

end GuestStorage
