import GuestStorage.Guest.Path
import GuestStorage.Host.Path

/-!
# Arguments

The first word names a command. The words behind it are operands and options in any order; every option
takes a value and is given once. Behind a double dash all words are operands, and a single dash always
is one. `Command.ofWords?` has no answer where the words do not fit.
-/

namespace GuestStorage

inductive Command
  | info (container : HostPath)
  | extract (container : HostPath) (sectionName : String) (output : HostPath)
  | romFs (container output : HostPath)
  | list (directory : HostPath) (path : GuestPath)
  deriving DecidableEq, Repr

inductive Spelling
  | long (name : List Char)
  | short (letter : Char)
  deriving DecidableEq, Repr

inductive Word
  | operand
  | endOfOptions
  | option (spelling : Spelling) (attached : Option (List Char))
  deriving DecidableEq, Repr

namespace Word

/-- A long name ends at the first equals sign, behind which the value stands. -/
def ofLong (text : List Char) : Word :=
  .option (.long (text.takeWhile (· ≠ '='))) ((text.dropWhile (· ≠ '=')).tail?)

def ofShort (letter : Char) : List Char → Word
  | [] => .option (.short letter) none
  | '=' :: value => .option (.short letter) (some value)
  | value => .option (.short letter) (some value)

def ofChars : List Char → Word
  | ['-', '-'] => .endOfOptions
  | '-' :: '-' :: text => ofLong text
  | '-' :: letter :: text => ofShort letter text
  | _ => .operand

def ofString (text : String) : Word := ofChars text.toList

end Word

inductive CommandOption
  | sectionName
  | output
  | path
  deriving DecidableEq, Repr

namespace CommandOption

def longName : CommandOption → String
  | sectionName => "section"
  | output => "output"
  | path => "path"

def letter : CommandOption → Option Char
  | output => some 'o'
  | sectionName | path => none

def isSpelled (option : CommandOption) : Spelling → Bool
  | .long name => name = option.longName.toList
  | .short letter => option.letter = some letter

end CommandOption

structure Arguments where
  operands : List String
  options : List (CommandOption × String)
  deriving DecidableEq, Repr

namespace Arguments

def addOperand (word : String) (arguments : Arguments) : Arguments :=
  { arguments with operands := word :: arguments.operands }

def addOption (option : CommandOption) (value : String) (arguments : Arguments) : Arguments :=
  { arguments with options := (option, value) :: arguments.options }

def ofWords? (known : List CommandOption) : List String → Option Arguments
  | [] => some ⟨[], []⟩
  | word :: rest =>
    match Word.ofString word with
    | .operand => (ofWords? known rest).map (addOperand word)
    | .endOfOptions => some ⟨rest, []⟩
    | .option spelling attached =>
      match known.find? (·.isSpelled spelling), attached with
      | none, _ => none
      | some option, some value =>
        (ofWords? known rest).map (addOption option (String.ofList value))
      | some option, none =>
        match rest with
        | [] => none
        | value :: behind =>
          if Word.ofString value = .operand then
            (ofWords? known behind).map (addOption option value)
          else none

def value? (arguments : Arguments) (option : CommandOption) (standard : Option String) :
    Option String :=
  match arguments.options.filter (·.1 = option) with
  | [] => standard
  | [(_, value)] => some value
  | _ => none

def hostPath? (text : String) : Option HostPath :=
  if text = "" then none else some (.ofString text)

def operand? (arguments : Arguments) : Option HostPath :=
  match arguments.operands with
  | [text] => hostPath? text
  | _ => none

def output? (arguments : Arguments) : Option HostPath := do
  hostPath? (← arguments.value? .output none)

end Arguments

namespace Command

def ofWords? : List String → Option Command
  | "info" :: words => do
    let arguments ← Arguments.ofWords? [] words
    return .info (← arguments.operand?)
  | "extract" :: words => do
    let arguments ← Arguments.ofWords? [.sectionName, .output] words
    return .extract (← arguments.operand?) (← arguments.value? .sectionName ".code")
      (← arguments.output?)
  | "romfs" :: words => do
    let arguments ← Arguments.ofWords? [.output] words
    return .romFs (← arguments.operand?) (← arguments.output?)
  | "ls" :: words => do
    let arguments ← Arguments.ofWords? [.path] words
    return .list (← arguments.operand?) (.char (← arguments.value? .path "/"))
  | _ => none

end Command

end GuestStorage
