import GuestStorage.Config.Basic
import GuestStorage.Toml.Document
import GuestStorage.Toml.Quoting

namespace GuestStorage.Config

def standardPaths (dataDirectory : String) : PathSettings :=
  let base := dataDirectory ++ "/" ++ directoryName
  ⟨base ++ "/sdmc", base ++ "/nand"⟩

def standard (dataDirectory : String) : Config :=
  ⟨standardPaths dataDirectory, .standard, .standard⟩

/-- The values of some fields. A table names them, an array gives them in order; a date has none of
them. -/
def fields (names : List String) : Toml.Value → Option (List (Option Toml.Value))
  | .table _ entries => some (names.map fun name => List.lookup name entries)
  | .array values => some ((List.range names.length).map fun index => values[index]?)
  | .tables members =>
    some ((List.range names.length).map fun index => members[index]?.map (.table .header))
  | .moment _ => some (names.map fun _ => none)
  | .text _ | .boolean _ | .integer _ | .float _ => none

def field {α : Type} (read : Toml.Value → Option α) (standard : α) (values : List (Option Toml.Value))
    (index : Nat) : Option α :=
  match values[index]? with
  | some (some value) => read value
  | _ => some standard

def text : Toml.Value → Option String
  | .text value => some value
  | _ => none

def boolean : Toml.Value → Option Bool
  | .boolean value => some value
  | _ => none

def isEmptyCollection : Toml.Value → Bool
  | .array [] | .table _ [] => true
  | _ => false

/-- A level is a text, or the only key of a table, with nothing behind it. -/
def logLevel : Toml.Value → Option LogLevel
  | .text name => LogLevel.ofName? name
  | .table _ [(name, value)] => if isEmptyCollection value then LogLevel.ofName? name else none
  | _ => none

def pathSettings (standard : PathSettings) (value : Toml.Value) : Option PathSettings := do
  let values ← fields ["sdmc", "nand"] value
  return ⟨← field text standard.sdCard values 0, ← field text standard.nand values 1⟩

def fileSystemSettings (value : Toml.Value) : Option FileSystemSettings := do
  let standard := FileSystemSettings.standard
  let values ← fields ["use_virtual_sd", "system_id", "sdcard_id"] value
  return ⟨← field boolean standard.useVirtualCard values 0, ← field text standard.systemId values 1,
    ← field text standard.cardId values 2⟩

def debugSettings (value : Toml.Value) : Option DebugSettings := do
  let values ← fields ["log_level"] value
  return ⟨← field logLevel DebugSettings.standard.logLevel values 0⟩

def ofDocument? (dataDirectory document : String) : Option Config := do
  let entries ← Toml.Document.parse? document
  let paths := standardPaths dataDirectory
  let values ← fields ["paths", "filesystem", "debug"] (.table .header entries)
  return ⟨← field (pathSettings paths) paths values 0,
    ← field fileSystemSettings .standard values 1, ← field debugSettings .standard values 2⟩

def line (key value : String) : String := key ++ " = " ++ value ++ "\n"

def toDocument (config : Config) : String :=
  "[paths]\n" ++ line "sdmc" (Toml.Quoting.write config.paths.sdCard) ++
    line "nand" (Toml.Quoting.write config.paths.nand) ++ "\n[filesystem]\n" ++
    line "use_virtual_sd" (if config.fileSystem.useVirtualCard then "true" else "false") ++
    line "system_id" (Toml.Quoting.write config.fileSystem.systemId) ++
    line "sdcard_id" (Toml.Quoting.write config.fileSystem.cardId) ++ "\n[debug]\n" ++
    line "log_level" (Toml.Quoting.write config.debug.logLevel.name)

end GuestStorage.Config
