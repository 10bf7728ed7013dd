import GuestStorage.Guest.Path

/-!
# The grammar of text paths

A path inside an archive is `/` followed by segments with single `/` between them and at most one more
at the end. No segment is empty, `.` or `..`, and characters that host file systems treat specially are
refused anywhere. The main definitions are the parser `segments?` and the writer `ofSegments`.
-/

namespace GuestStorage.GuestPath

def isForbidden (character : Char) : Bool :=
  ['<', '>', '\\', '|', ':', '"', '*', '?'].contains character

def isSegment (segment : List Char) : Bool :=
  segment ≠ [] && segment ≠ ['.'] && segment ≠ ['.', '.']

def dropTrailingSlash (text : List Char) : List Char :=
  if text.getLast? = some '/' then text.dropLast else text

def splitSegments (rest : List Char) : Option (List (List Char)) :=
  match dropTrailingSlash rest with
  | [] => some []
  | rest =>
    let segments := rest.splitOn '/'
    if segments.all isSegment then some segments else none

def parseText : List Char → Option (List (List Char))
  | '/' :: rest => if rest.any isForbidden then none else splitSegments rest
  | _ => none

def segments? : GuestPath → Option (List String)
  | char text => (parseText text.toList).map (·.map String.ofList)
  | wide units => (parseText (Utf16.decode units).toList).map (·.map String.ofList)
  | invalid | empty | binary _ => none

def segments (path : GuestPath) : List String := path.segments?.getD []

def isValid (path : GuestPath) : Bool := path.segments?.isSome

def isRoot (path : GuestPath) : Bool := path.segments? = some []

def ofSegments (segments : List String) : GuestPath :=
  char ("/" ++ "/".intercalate segments)

end GuestStorage.GuestPath
