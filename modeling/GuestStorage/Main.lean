import GuestStorage.CommandLine.Run

/-!
# The program

The outer layer: it looks at the files and directories that a command can reach, runs the command on a
host made of them, and carries what has changed back to the machine.
-/

namespace GuestStorage.Program

def locationOf (workingDirectory : Location) (path : HostPath) : Location :=
  path.parts.foldl
    (fun location part =>
      if HostPath.isTrivial part then location
      else if part = ".." then location.dropLast
      else location ++ [part])
    (if path.isAbsolute then [] else workingDirectory)

def textOf (location : Location) : String := "/" ++ "/".intercalate location

/-- The places that a command looks at, and the ones whose children it lists. -/
def placesOf (command : Command) : List HostPath × List HostPath :=
  match command with
  | .info container => ([container], [])
  | .extract container _ output | .romFs container output => ([container, output], [])
  | .list directory path => ([], [directory.descendant (path.segments?.getD [])])

def withFile (host : Host) (location : Location) (contents : Contents) : Host :=
  (host.addFile location).setContents host.files.length contents

def observe (host : Host) (location : Location) : IO Host := do
  match ← (IO.FS.realPath (textOf location)).toBaseIO with
  | .error _ => return host
  | .ok path =>
    if ← path.isDir then return host.addDirectory location
    else if (host.tree.find? location).isSome then return host
    else return withFile host location (.ofBytes (← IO.FS.readBinFile path).toList)

def observePath (host : Host) (path : HostPath) : IO Host := do
  let location := locationOf host.workingDirectory path
  (List.range (location.length + 1)).foldlM (fun host length => observe host (location.take length))
    host

def observeChildren (host : Host) (path : HostPath) : IO Host := do
  let host ← observePath host path
  let location := locationOf host.workingDirectory path
  match ← (IO.FS.realPath (textOf location)).toBaseIO with
  | .error _ => return host
  | .ok directory =>
    if !(← directory.isDir) then return host
    (← directory.readDir).foldlM (fun host child => do
      let place := location ++ [child.fileName]
      if (host.tree.find? place).isSome then return host
      if ← child.path.isDir then return host.addDirectory place
      let size := (← child.path.metadata).byteSize
      return withFile host place (Contents.empty.resize size.toNat)) host

/-- Carries an entry to the machine if it is new or holds something else than before. -/
def settle (before after : Host) (place : Location × Entry) : IO Unit := do
  match place.2 with
  | .directory =>
    if (before.tree.find? place.1).isNone then IO.FS.createDirAll (textOf place.1)
  | .file id =>
    let contents := after.contents id
    if (before.tree.find? place.1).isNone ∨ before.contents id ≠ contents then
      IO.FS.writeBinFile (textOf place.1) ⟨contents.toBytes.toArray⟩

def directoryFrom (variableName : String) (belowHome : String) : IO String := do
  match ← IO.getEnv variableName with
  | some directory => if directory.startsWith "/" then return directory
  | none => pure ()
  return ((← IO.getEnv "HOME").getD ".") ++ belowHome

def printLines (stream : IO.FS.Stream) (lines : List String) : IO Unit :=
  lines.forM fun line => stream.putStr (line ++ "\n")

def run (words : List String) : IO UInt32 := do
  let workingDirectory := locationOf [] (.ofString (← IO.currentDir).toString)
  let configDirectory := HostPath.ofString (← directoryFrom "XDG_CONFIG_HOME" "/.config")
  let surroundings : Surroundings :=
    ⟨configDirectory, ← directoryFrom "XDG_DATA_HOME" "/.local/share"⟩
  let (places, listed) := ((Command.ofWords? words).map placesOf).getD ([], [])
  let start ← observePath (.empty workingDirectory) (.ofString ".")
  let known ← (Config.location configDirectory :: places).foldlM observePath start
  let host ← listed.foldlM observeChildren known
  let outcome := invoke words surroundings host
  outcome.host.tree.entries.reverse.forM (settle host outcome.host)
  printLines (← IO.getStdout) outcome.output
  printLines (← IO.getStderr) outcome.errors
  return outcome.status.toUInt32

end GuestStorage.Program

def main (words : List String) : IO UInt32 := GuestStorage.Program.run words
