namespace GuestStorage.Toml

abbrev Reader := StateT (List Char) Option

namespace Reader

def peek : Reader (Option Char) := do return (← get).head?

def next : Reader Char := do
  match ← get with
  | [] => failure
  | character :: rest => set rest; return character

def expect (character : Char) : Reader Unit := do
  if (← next) = character then return () else failure

def takeWhile (inClass : Char → Bool) : Reader (List Char) := do
  let text ← get
  set (text.dropWhile inClass)
  return text.takeWhile inClass

def takeWhile1 (inClass : Char → Bool) : Reader (List Char) := do
  let found ← takeWhile inClass
  if found = [] then failure else return found

def count (amount : Nat) (inClass : Char → Bool) : Reader (List Char) := do
  let text ← get
  let found := text.take amount
  if found.length = amount ∧ found.all inClass then
    set (text.drop amount)
    return found
  else failure

def word (letters : String) : Reader Unit := do
  let text ← get
  if letters.toList.isPrefixOf text then set (text.drop letters.length) else failure

def optional? {α : Type} (reader : Reader α) : Reader (Option α) :=
  (some <$> reader) <|> pure none

def steps : Reader Nat := do return (← get).length + 1

def isBlank (character : Char) : Bool := character = ' ' || character = '\t'

def isPrintable (character : Char) : Bool :=
  character = '\t' || (' ' ≤ character && character ≠ '\x7f')

def blanks : Reader Unit := do let _ ← takeWhile isBlank

def newline : Reader Unit := expect '\n'

def atEnd : Reader Unit := do if (← get) = [] then return () else failure

def lineEnd : Reader Unit := atEnd <|> newline

def comment : Reader Unit := do
  if (← peek) = some '#' then let _ ← takeWhile isPrintable

def lineRest : Reader Unit := do blanks; comment; lineEnd

def skipGap : Bool → List Char → List Char
  | _, [] => []
  | inComment, character :: rest =>
    if character = '\n' then skipGap false rest
    else if inComment then
      if isPrintable character then skipGap true rest else character :: rest
    else if isBlank character then skipGap false rest
    else if character = '#' then skipGap true rest
    else character :: rest

def gap : Reader Unit := modify (skipGap false)

/-- Makes every line end in a line feed alone; a carriage return elsewhere stays and fits nowhere. -/
def unifyLines : List Char → List Char
  | '\r' :: '\n' :: rest => '\n' :: unifyLines rest
  | character :: rest => character :: unifyLines rest
  | [] => []

end Reader

end GuestStorage.Toml
