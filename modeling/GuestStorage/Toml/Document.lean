import GuestStorage.Toml.Number
import GuestStorage.Toml.Text

namespace GuestStorage.Toml

namespace Key

def isBare (character : Char) : Bool :=
  character.isAlphanum || character = '-' || character = '_'

def simple : Reader String := do
  match ← Reader.peek with
  | some '"' => Text.line '"'
  | some '\'' => Text.line '\''
  | _ => return String.ofList (← Reader.takeWhile1 isBare)

def parts : Nat → Reader (List String)
  | 0 => failure
  | fuel + 1 => do
    Reader.blanks
    let first ← simple
    Reader.blanks
    if (← Reader.peek) = some '.' then
      let _ ← Reader.next
      return first :: (← parts fuel)
    else return [first]

/-- Keys and values nest less deep than this. -/
def depthLimit : Nat := 80

def dotted : Reader (List String) := do
  let parts ← parts (← Reader.steps)
  if parts.length < depthLimit then return parts else failure

end Key

namespace Value

def elements (item : Reader Value) : Nat → Reader (List Value)
  | 0 => failure
  | fuel + 1 => do
    Reader.gap
    if (← Reader.peek) = some ']' then
      let _ ← Reader.next
      return []
    let first ← item
    Reader.gap
    match ← Reader.next with
    | ',' => return first :: (← elements item fuel)
    | ']' => return [first]
    | _ => failure

def assignmentReader (item : Reader Value) : Reader Entries.Assignment := do
  let key ← Key.dotted
  Reader.expect '='
  Reader.blanks
  return ⟨key, ← item⟩

def pairs (item : Reader Value) : Nat → Reader (List Entries.Assignment)
  | 0 => failure
  | fuel + 1 => do
    let first ← assignmentReader item
    Reader.blanks
    match ← Reader.next with
    | ',' => return first :: (← pairs item fuel)
    | '}' => return [first]
    | _ => failure

def arrayReader (item : Reader Value) : Reader Value := do
  Reader.expect '['
  return .array (← elements item (← Reader.steps))

def bracesReader (item : Reader Value) : Reader Value := do
  Reader.expect '{'
  Reader.blanks
  let empty ← Reader.optional? (Reader.expect '}')
  let assignments ← if empty.isSome then pure [] else pairs item (← Reader.steps)
  match Entries.assignAll true assignments [] with
  | none => failure
  | some entries => return .table .braces entries

def scalar : Reader Value := do
  match ← Reader.peek with
  | some '"' => return .text (← Text.quoted '"')
  | some '\'' => return .text (← Text.quoted '\'')
  | some 't' => Reader.word "true"; return .boolean true
  | some 'f' => Reader.word "false"; return .boolean false
  | _ => Number.value

def nested : Nat → Reader Value
  | 0 => do
    match ← Reader.peek with
    | some '[' | some '\x7b' => failure
    | _ => scalar
  | depth + 1 => do
    match ← Reader.peek with
    | some '[' => arrayReader (nested depth)
    | some '\x7b' => bracesReader (nested depth)
    | _ => scalar

def reader : Reader Value := nested (Key.depthLimit - 1)

end Value

inductive Statement
  | assignment (given : Entries.Assignment)
  | header (key : List String)
  | arrayHeader (key : List String)

namespace Statement

def headerReader : Reader Statement := do
  Reader.expect '['
  let double ← Reader.optional? (Reader.expect '[')
  let key ← Key.dotted
  Reader.expect ']'
  if double.isSome then
    Reader.expect ']'
    Reader.lineRest
    return .arrayHeader key
  else
    Reader.lineRest
    return .header key

def assignmentReader : Reader Statement := do
  let given ← Value.assignmentReader Value.reader
  Reader.lineRest
  return .assignment given

def readAll : Nat → Reader (List Statement)
  | 0 => failure
  | fuel + 1 => do
    Reader.blanks
    match ← Reader.peek with
    | none => return []
    | some '#' | some '\n' => Reader.lineRest; readAll fuel
    | some '[' => return (← headerReader) :: (← readAll fuel)
    | some _ => return (← assignmentReader) :: (← readAll fuel)

abbrev Group := Statement × List Entries.Assignment

/-- The assignments before the first header, and the others by their headers. -/
def group : List Statement → List Entries.Assignment × List Group
  | [] => ([], [])
  | .assignment given :: rest =>
    let (own, groups) := group rest
    (given :: own, groups)
  | statement :: rest =>
    let (own, groups) := group rest
    ([], (statement, own) :: groups)

def apply (entries : Entries) : Group → Option Entries
  | (.header key, assignments) => Entries.place (Entries.openTable assignments) key entries
  | (.arrayHeader key, assignments) => Entries.place (Entries.addTable assignments) key entries
  | (.assignment _, _) => none

end Statement

namespace Document

def withoutByteOrderMark : List Char → List Char
  | '\uFEFF' :: rest => rest
  | text => text

def parse? (text : String) : Option Entries := do
  let characters := Reader.unifyLines (withoutByteOrderMark text.toList)
  let (statements, _) ← (Statement.readAll (characters.length + 1)).run characters
  let (own, groups) := Statement.group statements
  groups.foldlM Statement.apply (← Entries.assignAll false own [])

end Document

end GuestStorage.Toml
