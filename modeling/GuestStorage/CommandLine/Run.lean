import GuestStorage.Archive.Basic
import GuestStorage.CommandLine.Arguments
import GuestStorage.CommandLine.Failure
import GuestStorage.CommandLine.Listing
import GuestStorage.CommandLine.Summary
import GuestStorage.Config.Storage

namespace GuestStorage

namespace Command

def openContainer (host : Host) (container : HostPath) : Except CommandFailure Loader :=
  match Loader.openPath host container .zero with
  | .error cause => .error (.openContainer container cause)
  | .ok loader =>
    match loader.loadHeaders (host.medium loader.file) with
    | (_, .error cause) => .error (.readHeaders container cause)
    | (loader, .ok ()) => .ok loader

def runInfo (host : Host) (container : HostPath) : Except CommandFailure (List String) :=
  match openContainer host container with
  | .error failure => .error failure
  | .ok loader => .ok (Summary.lines loader (host.medium loader.file))

def runExtract (host : Host) (container : HostPath) (sectionName : String) (output : HostPath) :
    Except CommandFailure Host :=
  match openContainer host container with
  | .error failure => .error failure
  | .ok loader =>
    match (loader.loadSection (host.medium loader.file) sectionName).2 with
    | .error cause => .error (.readSection sectionName cause)
    | .ok data => (host.writeFile output data).mapError (.writeOutput output)

def chunkSize : Nat := 0x100000

def copyFrom (host : Host) (source : FileHandle) (target : OpenFile) (buffer : Bytes)
    (size offset : Nat) : Host × Except CommandFailure Unit :=
  if offset < size then
    match source.read host (.ofNat offset) buffer with
    | (_, _, .error code) => (host, .error (.refused code))
    | (source, buffer, .ok count) =>
      if count = 0 then (host, .error (.endedEarly offset size))
      else
        match host.writeAt target offset (buffer.take count) with
        | .error cause => (host, .error (.copy cause))
        | .ok host => copyFrom host source target buffer size (offset + count)
  else (host, .ok ())
termination_by size - offset

/-- Copies an image to a file. The file is made before the first byte is read. -/
def copyImage (host : Host) (image : RomFsImage) (output : HostPath) :
    Host × Except CommandFailure Unit :=
  match (Archive.image image).openFile host .empty .readOnly with
  | (host, .error code) => (host, .error (.refused code))
  | (host, .ok source) =>
    match host.createFile output with
    | .error cause => (host, .error (.createOutput output cause))
    | .ok (created, id) =>
      let buffer := List.replicate chunkSize 0
      copyFrom created source ⟨.file id, true⟩ buffer (source.size host) 0

def runRomFs (host : Host) (container output : HostPath) : Host × Except CommandFailure Unit :=
  match openContainer host container with
  | .error failure => (host, .error failure)
  | .ok loader =>
    match (loader.readRomFs (host.medium loader.file)).2 with
    | .error cause => (host, .error (.locateRomFs cause))
    | .ok image => copyImage host image output

def runList (host : Host) (directory : HostPath) (path : GuestPath) :
    Except CommandFailure (List String) :=
  if host.isDirectory directory then
    match Mount.openDirectory ⟨.sdCard, directory⟩ host path with
    | .error code => .error (.refused code)
    | .ok listing => .ok (listing.readAll.map DirectoryEntry.line)
  else .error (.notADirectory directory)

def run (host : Host) : Command → Host × Except CommandFailure (List String)
  | info container => (host, runInfo host container)
  | extract container sectionName output =>
    match runExtract host container sectionName output with
    | .error failure => (host, .error failure)
    | .ok written => (written, .ok [])
  | romFs container output =>
    match runRomFs host container output with
    | (host, .error failure) => (host, .error failure)
    | (host, .ok ()) => (host, .ok [])
  | list directory path => (host, runList host directory path)

end Command

structure Surroundings where
  configDirectory : HostPath
  dataDirectory : String
  deriving DecidableEq, Repr

structure Outcome where
  host : Host
  status : UInt8
  output : List String
  errors : List String

namespace Outcome

def succeeded : UInt8 := 0

def failed : UInt8 := 1

def misused : UInt8 := 2

end Outcome

def usage : List String :=
  ["Commands:", "  info <container>", "  extract <container> [--section <name>] --output <file>",
    "  romfs <container> --output <file>", "  ls <directory> [--path <path>]"]

/-- Runs a command; a configuration that cannot be loaded is only reported. -/
def Command.invoke (command : Command) (surroundings : Surroundings) (host : Host) : Outcome :=
  let (host, config) := Config.load host surroundings.configDirectory surroundings.dataDirectory
  let warnings := match config with
    | .error cause => ["Failed to load config, using defaults: " ++ cause.message]
    | .ok _ => []
  match command.run host with
  | (host, .error failure) => ⟨host, Outcome.failed, [], warnings ++ failure.reportLines⟩
  | (host, .ok lines) => ⟨host, Outcome.succeeded, lines, warnings⟩

def invoke (words : List String) (surroundings : Surroundings) (host : Host) : Outcome :=
  match Command.ofWords? words with
  | none => ⟨host, Outcome.misused, [], usage⟩
  | some command => command.invoke surroundings host

end GuestStorage
