import GuestStorage.Container.Error
import GuestStorage.Host.Path
import GuestStorage.ResultCode.Basic

namespace GuestStorage

inductive CommandFailure
  | openContainer (container : HostPath) (cause : LoaderError)
  | readHeaders (container : HostPath) (cause : LoaderError)
  | readSection (name : String) (cause : LoaderError)
  | locateRomFs (cause : LoaderError)
  | writeOutput (output : HostPath) (cause : HostError)
  | createOutput (output : HostPath) (cause : HostError)
  | copy (cause : HostError)
  | endedEarly (offset size : Nat)
  | notADirectory (path : HostPath)
  | refused (code : ResultCode)
  deriving DecidableEq, Repr

def LoaderError.chain (error : LoaderError) : List String :=
  match error with
  | .io cause => [error.message, cause.message]
  | _ => [error.message]

namespace CommandFailure

def message : CommandFailure → String
  | openContainer container _ => "Failed to open " ++ container.toString
  | readHeaders container _ => "Failed to read headers of " ++ container.toString
  | readSection name _ => "Failed to read section " ++ name
  | locateRomFs _ => "Failed to locate RomFS"
  | writeOutput output _ => "Failed to write " ++ output.toString
  | createOutput output _ => "Failed to create " ++ output.toString
  | copy cause => cause.message
  | endedEarly offset size =>
    "RomFS image ended early at " ++ Numeral.shortUpper offset ++ " of " ++ Numeral.shortUpper size
  | notADirectory path => path.toString ++ " is not a directory"
  | refused code => code.display

def causes : CommandFailure → List String
  | openContainer _ cause | readHeaders _ cause | readSection _ cause | locateRomFs cause =>
    cause.chain
  | writeOutput _ cause | createOutput _ cause => [cause.message]
  | copy _ | endedEarly .. | notADirectory _ | refused _ => []

def indent (width : Nat) (text : String) : String :=
  String.ofList (text.toList.flatMap fun character =>
    if character = '\n' then '\n' :: List.replicate width ' ' else [character])

def causeLines : List String → List String
  | [] => []
  | [cause] => ["    " ++ indent 4 cause]
  | causes =>
    causes.mapIdx fun index cause =>
      Numeral.alignRight 5 (toString index) ++ ": " ++ indent 7 cause

def reportLines (failure : CommandFailure) : List String :=
  match failure.causes with
  | [] => ["Error: " ++ failure.message]
  | causes => ("Error: " ++ failure.message) :: "" :: "Caused by:" :: causeLines causes

end CommandFailure

end GuestStorage
