import GuestStorage.Toml.Reader

namespace GuestStorage.Toml.Text

def hexValue? (character : Char) : Option Nat :=
  if character.isDigit then some (character.toNat - '0'.toNat)
  else if 'a' ≤ character ∧ character ≤ 'f' then some (character.toNat - 'a'.toNat + 10)
  else if 'A' ≤ character ∧ character ≤ 'F' then some (character.toNat - 'A'.toNat + 10)
  else none

def numbered (digits : Nat) (text : List Char) : Option (Char × List Char) := do
  let found := text.take digits
  if found.length < digits then none
  else
    let values ← found.mapM hexValue?
    let value := values.foldl (fun sum digit => 16 * sum + digit) 0
    if value.isValidChar then some (Char.ofNat value, text.drop digits) else none

def escaped : List Char → Option (Char × List Char)
  | 'b' :: rest => some ('\x08', rest)
  | 't' :: rest => some ('\t', rest)
  | 'n' :: rest => some ('\n', rest)
  | 'f' :: rest => some ('\x0c', rest)
  | 'r' :: rest => some ('\r', rest)
  | '"' :: rest => some ('"', rest)
  | '\\' :: rest => some ('\\', rest)
  | 'u' :: rest => numbered 4 rest
  | 'U' :: rest => numbered 8 rest
  | _ => none

def continuation (text : List Char) : Option (List Char) :=
  match text.dropWhile Reader.isBlank with
  | '\n' :: rest => some (rest.dropWhile fun character => Reader.isBlank character || character = '\n')
  | _ => none

def lineBody (quote : Char) (escapes : Bool) : Nat → List Char → Option (List Char × List Char)
  | 0, _ => none
  | _, [] => none
  | fuel + 1, character :: rest =>
    if character = quote then some ([], rest)
    else if escapes ∧ character = '\\' then do
      let (meant, rest) ← escaped rest
      let (more, rest) ← lineBody quote escapes fuel rest
      return (meant :: more, rest)
    else if Reader.isPrintable character then do
      let (more, rest) ← lineBody quote escapes fuel rest
      return (character :: more, rest)
    else none

def quotes (quote : Char) (text : List Char) : Nat :=
  ((text.take 5).takeWhile (· = quote)).length

/-- A text of several lines up to its three quotes, before which two more belong to it. -/
def blockBody (quote : Char) (escapes : Bool) : Nat → List Char → Option (List Char × List Char)
  | 0, _ => none
  | _, [] => none
  | fuel + 1, character :: rest =>
    if 3 ≤ quotes quote (character :: rest) then
      let amount := quotes quote (character :: rest)
      some (List.replicate (amount - 3) quote, (character :: rest).drop amount)
    else if escapes ∧ character = '\\' then
      match continuation rest with
      | some rest => blockBody quote escapes fuel rest
      | none => do
        let (meant, rest) ← escaped rest
        let (more, rest) ← blockBody quote escapes fuel rest
        return (meant :: more, rest)
    else if character = '\n' ∨ Reader.isPrintable character then do
      let (more, rest) ← blockBody quote escapes fuel rest
      return (character :: more, rest)
    else none

def body (read : Nat → List Char → Option (List Char × List Char)) : Reader String := do
  match read (← Reader.steps) (← get) with
  | none => failure
  | some (found, rest) =>
    set rest
    return String.ofList found

def line (quote : Char) : Reader String := do
  Reader.expect quote
  body (lineBody quote (quote = '"'))

/-- A text in three quotes of one kind; a line end right behind them does not belong to it. -/
def block (quote : Char) : Reader String := do
  Reader.word (String.ofList [quote, quote, quote])
  let _ ← Reader.optional? Reader.newline
  body (blockBody quote (quote = '"'))

def quoted (quote : Char) : Reader String := block quote <|> line quote

end GuestStorage.Toml.Text
