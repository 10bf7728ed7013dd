namespace GuestStorage

inductive LogLevel
  | off | error | warn | info | debug | trace
  deriving DecidableEq, Repr

namespace LogLevel

def all : List LogLevel := [off, error, warn, info, debug, trace]

def name : LogLevel → String
  | off => "Off"
  | error => "Error"
  | warn => "Warn"
  | info => "Info"
  | debug => "Debug"
  | trace => "Trace"

def filter : LogLevel → String
  | off => "off"
  | error => "error"
  | warn => "warn"
  | info => "info"
  | debug => "debug"
  | trace => "trace"

def ofName? (name : String) : Option LogLevel := all.find? (·.name = name)

end LogLevel

structure PathSettings where
  sdCard : String
  nand : String
  deriving DecidableEq, Repr

structure FileSystemSettings where
  useVirtualCard : Bool
  systemId : String
  cardId : String
  deriving DecidableEq, Repr

structure DebugSettings where
  logLevel : LogLevel
  deriving DecidableEq, Repr

structure Config where
  paths : PathSettings
  fileSystem : FileSystemSettings
  debug : DebugSettings
  deriving DecidableEq, Repr

namespace Config

def directoryName : String := "citrine"

end Config

namespace FileSystemSettings

def blankId : String := String.ofList (List.replicate 32 '0')

def standard : FileSystemSettings := ⟨true, blankId, blankId⟩

end FileSystemSettings

namespace DebugSettings

def standard : DebugSettings := ⟨.info⟩

end DebugSettings

end GuestStorage
