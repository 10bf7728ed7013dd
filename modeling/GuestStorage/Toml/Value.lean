/-!
# Values of a document

A document is a table of named values. A table remembers how it came about, since that decides whether it
can be extended later on: by a header of its own, on the way to another header, by a dotted key, or in
braces.
-/

namespace GuestStorage.Toml

inductive FloatLiteral
  | finite (negative : Bool) (significand : Nat) (exponent : Int)
  | infinite (negative : Bool)
  | notANumber
  deriving DecidableEq, Repr

structure Date where
  year : Nat
  month : Nat
  day : Nat
  deriving DecidableEq, Repr

structure TimeOfDay where
  hour : Nat
  minute : Nat
  second : Nat
  fraction : List Char
  deriving DecidableEq, Repr

/-- A date, a time of day, or both; the offset is in minutes. -/
structure Moment where
  date : Option Date
  time : Option TimeOfDay
  offset : Option Int
  deriving DecidableEq, Repr

inductive TableOrigin
  | header
  | way
  | dottedKey
  | braces
  | dottedKeyInBraces
  deriving DecidableEq, Repr

namespace TableOrigin

def isDotted : TableOrigin → Bool
  | dottedKey | dottedKeyInBraces => true
  | header | way | braces => false

def isInBraces : TableOrigin → Bool
  | braces | dottedKeyInBraces => true
  | header | way | dottedKey => false

end TableOrigin

inductive Value
  | text (value : String)
  | boolean (value : Bool)
  | integer (value : Int)
  | float (value : FloatLiteral)
  | moment (value : Moment)
  | array (values : List Value)
  | tables (members : List (List (String × Value)))
  | table (origin : TableOrigin) (entries : List (String × Value))
  deriving Repr

abbrev Entries := List (String × Value)

namespace Entries

def put (entries : Entries) (key : String) (value : Value) : Entries :=
  if entries.any (·.1 = key) then
    entries.map fun entry => if entry.1 = key then (key, value) else entry
  else entries ++ [(key, value)]

def inLast (change : Entries → Option Entries) : List Entries → Option (List Entries)
  | [] => none
  | [last] => (change last).map ([·])
  | first :: rest => (inLast change rest).map (first :: ·)

/-- Assigns a value to a dotted key. The tables on the way are made by dotted keys, and only those can be
extended by one; a key is assigned once. -/
def assign (inBraces : Bool) (value : Value) : List String → Entries → Option Entries
  | [], _ => none
  | [key], entries =>
    if (entries.lookup key).isSome then none else some (entries ++ [(key, value)])
  | key :: rest, entries =>
    let origin := if inBraces then TableOrigin.dottedKeyInBraces else .dottedKey
    match entries.lookup key with
    | none => (assign inBraces value rest []).map fun inner => entries ++ [(key, .table origin inner)]
    | some (.table old inner) =>
      if old = origin ∨ old = .way ∧ !inBraces ∧ 1 < rest.length then
        (assign inBraces value rest inner).map fun inner => entries.put key (.table old inner)
      else none
    | some (.tables members) =>
      if inBraces ∨ rest.length ≤ 1 then none
      else (inLast (assign inBraces value rest) members).map fun members =>
        entries.put key (.tables members)
    | some _ => none

structure Assignment where
  key : List String
  value : Value

def assignAll (inBraces : Bool) (assignments : List Assignment) (entries : Entries) :
    Option Entries :=
  assignments.foldlM (fun entries each => assign inBraces each.value each.key entries) entries

/-- Puts something at the key that a header ends in, going through tables and the last members of arrays
of tables, which are made where they are missing. -/
def place (body : Option Value → Option Value) : List String → Entries → Option Entries
  | [], _ => none
  | [key], entries => (body (entries.lookup key)).map (entries.put key)
  | key :: rest, entries =>
    match entries.lookup key with
    | none => (place body rest []).map fun inner => entries ++ [(key, .table .way inner)]
    | some (.table origin inner) =>
      if origin.isInBraces then none
      else (place body rest inner).map fun inner => entries.put key (.table origin inner)
    | some (.tables members) =>
      (inLast (place body rest) members).map fun members => entries.put key (.tables members)
    | some _ => none

def openTable (assignments : List Assignment) : Option Value → Option Value
  | none => (assignAll false assignments []).map (.table .header)
  | some (.table .way entries) => (assignAll false assignments entries).map (.table .header)
  | some _ => none

def addTable (assignments : List Assignment) : Option Value → Option Value
  | none => (assignAll false assignments []).map fun entries => .tables [entries]
  | some (.tables members) =>
    (assignAll false assignments []).map fun entries => .tables (members ++ [entries])
  | some _ => none

end Entries

end GuestStorage.Toml
