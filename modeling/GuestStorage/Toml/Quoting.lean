import GuestStorage.Toml.Reader
import GuestStorage.Text.Numeral

namespace GuestStorage.Toml.Quoting

def needsEscape (character : Char) : Bool :=
  !Reader.isPrintable character && character ≠ '\n'

def longestRun (quote : Char) (text : List Char) : Nat :=
  let step := fun (state : Nat × Nat) character =>
    if character = quote then (state.1 + 1, max state.2 (state.1 + 1)) else (0, state.2)
  (text.foldl step (0, 0)).2

inductive Style
  | line
  | literalLine
  | block
  | literalBlock
  deriving DecidableEq, Repr

def Style.delimiter : Style → String
  | line => "\""
  | literalLine => "'"
  | block => "\"\"\""
  | literalBlock => "'''"

def styleOf (text : List Char) : Style :=
  let escapes := text.any needsEscape
  let backslash := text.contains '\\'
  let newline := text.contains '\n'
  if !escapes && !backslash && !newline && !text.contains '"' then .line
  else if !escapes && !newline && !text.contains '\'' then .literalLine
  else if !escapes && !backslash && longestRun '"' text ≤ 2 then .block
  else if !escapes && longestRun '\'' text ≤ 2 then .literalBlock
  else if newline then .block
  else .line

def escape (character : Char) : List Char :=
  match character with
  | '\x08' => ['\\', 'b']
  | '\t' => ['\\', 't']
  | '\n' => ['\\', 'n']
  | '\x0c' => ['\\', 'f']
  | '\r' => ['\\', 'r']
  | '\\' => ['\\', '\\']
  | '"' => ['\\', '"']
  | _ => ['\\', 'u'] ++ (Numeral.fixedUpper 4 character.toNat).toList

/-- Escapes what double quotes cannot hold, `allowed` quotes in a row being held; `seen` of them stand
right before. -/
def escaped (style : Style) (allowed : Nat) : Nat → List Char → List Char
  | _, [] => []
  | seen, character :: rest =>
    if character = '"' then
      if seen < allowed then '"' :: escaped style allowed (seen + 1) rest
      else escape '"' ++ escaped style allowed 0 rest
    else if character = '\\' ∨ character = '\t' ∨ needsEscape character ∨
        character = '\n' ∧ style ≠ .block then
      escape character ++ escaped style allowed 0 rest
    else character :: escaped style allowed 0 rest

def body (style : Style) (text : List Char) : List Char :=
  match style with
  | .line => escaped .line 0 0 text
  | .block => escaped .block 2 0 text
  | .literalLine | .literalBlock => text

/-- A text of several lines starts on a line of its own. -/
def write (text : String) : String :=
  let style := styleOf text.toList
  let start := if text.toList.contains '\n' then "\n" else ""
  style.delimiter ++ start ++ String.ofList (body style text.toList) ++ style.delimiter

end GuestStorage.Toml.Quoting
