namespace GuestStorage

structure HostPath where
  parts : List String
  deriving DecidableEq, Repr

namespace HostPath

def ofString (text : String) : HostPath :=
  ⟨(text.toList.splitOn '/').map String.ofList⟩

def toString (path : HostPath) : String := "/".intercalate path.parts

def isEmpty (path : HostPath) : Bool := path.parts.all (· = "") && path.parts.length ≤ 1

def isAbsolute (path : HostPath) : Bool := path.parts.head? = some "" && 1 < path.parts.length

/-- The parts before the place where another path goes on; a slash at the end is not doubled. -/
def stem (path : HostPath) : List String :=
  if path.parts.getLast? = some "" then path.parts.dropLast else path.parts

def join (base rest : HostPath) : HostPath :=
  if rest.isAbsolute then rest else ⟨base.stem ++ rest.parts⟩

def child (base : HostPath) (name : String) : HostPath := base.join ⟨[name]⟩

def isTrivial (part : String) : Bool := part = "" || part = "."

def endsInSlash (path : HostPath) : Bool := path.parts.getLast? = some ""

def trimmed (path : HostPath) : HostPath :=
  ⟨(path.parts.reverse.dropWhile (· = "")).reverse⟩

/-- The last part, slashes at the end aside, is a name of its own. -/
def endsInName (path : HostPath) : Bool :=
  path.trimmed.parts.getLast?.any fun part => !isTrivial part && part ≠ ".."

end HostPath

end GuestStorage
