import GuestStorage.Text.Numeral

namespace GuestStorage

inductive ErrorDescription
  | success | archiveNotMounted | fileNotFound | pathNotFound | notFound | fileAlreadyExists
  | directoryAlreadyExists | alreadyExists | invalidOpenFlags | directoryNotEmpty | notAFile
  | notFormatted | invalidReadFlag | invalidPath | writeBeyondEnd | unsupportedOpenFlags
  | unexpectedFileOrDirectory | tooLarge | notAuthorized | noData | invalidHandle
  | invalidResultValue
  deriving DecidableEq, Repr

inductive ErrorModule
  | common | fs | loader | invalidResultValue
  deriving DecidableEq, Repr

inductive ErrorSummary
  | success | nothingHappened | wouldBlock | outOfResource | notFound | invalidState | notSupported
  | invalidArgument | wrongArgument | canceled | statusChanged | internal | invalidResultValue
  deriving DecidableEq, Repr

inductive ErrorLevel
  | success | info | status | temporary | permanent | usage | reinitialize | reset | fatal
  deriving DecidableEq, Repr

namespace ErrorDescription

def all : List ErrorDescription :=
  [success, archiveNotMounted, fileNotFound, pathNotFound, notFound, fileAlreadyExists,
    directoryAlreadyExists, alreadyExists, invalidOpenFlags, directoryNotEmpty, notAFile,
    notFormatted, invalidReadFlag, invalidPath, writeBeyondEnd, unsupportedOpenFlags,
    unexpectedFileOrDirectory, tooLarge, notAuthorized, noData, invalidHandle, invalidResultValue]

def code : ErrorDescription → UInt32
  | success => 0
  | archiveNotMounted => 101
  | fileNotFound => 112
  | pathNotFound => 113
  | notFound => 120
  | fileAlreadyExists => 180
  | directoryAlreadyExists => 185
  | alreadyExists => 190
  | invalidOpenFlags => 230
  | directoryNotEmpty => 240
  | notAFile => 250
  | notFormatted => 340
  | invalidReadFlag => 700
  | invalidPath => 702
  | writeBeyondEnd => 705
  | unsupportedOpenFlags => 760
  | unexpectedFileOrDirectory => 770
  | tooLarge => 1001
  | notAuthorized => 1002
  | noData => 1007
  | invalidHandle => 1015
  | invalidResultValue => 1023

def name : ErrorDescription → String
  | success => "Success"
  | archiveNotMounted => "FsArchiveNotMounted"
  | fileNotFound => "FsFileNotFound"
  | pathNotFound => "FsPathNotFound"
  | notFound => "FsNotFound"
  | fileAlreadyExists => "FsFileAlreadyExists"
  | directoryAlreadyExists => "FsDirectoryAlreadyExists"
  | alreadyExists => "FsAlreadyExists"
  | invalidOpenFlags => "FsInvalidOpenFlags"
  | directoryNotEmpty => "FsDirectoryNotEmpty"
  | notAFile => "FsNotAFile"
  | notFormatted => "FsNotFormatted"
  | invalidReadFlag => "FsInvalidReadFlag"
  | invalidPath => "FsInvalidPath"
  | writeBeyondEnd => "FsWriteBeyondEnd"
  | unsupportedOpenFlags => "FsUnsupportedOpenFlags"
  | unexpectedFileOrDirectory => "FsUnexpectedFileOrDirectory"
  | tooLarge => "TooLarge"
  | notAuthorized => "NotAuthorized"
  | noData => "NoData"
  | invalidHandle => "InvalidHandle"
  | invalidResultValue => "InvalidResultValue"

end ErrorDescription

namespace ErrorModule

def all : List ErrorModule := [common, fs, loader, invalidResultValue]

def code : ErrorModule → UInt32
  | common => 0
  | fs => 17
  | loader => 18
  | invalidResultValue => 255

def name : ErrorModule → String
  | common => "Common"
  | fs => "Fs"
  | loader => "Loader"
  | invalidResultValue => "InvalidResultValue"

end ErrorModule

namespace ErrorSummary

def all : List ErrorSummary :=
  [success, nothingHappened, wouldBlock, outOfResource, notFound, invalidState, notSupported,
    invalidArgument, wrongArgument, canceled, statusChanged, internal, invalidResultValue]

def code : ErrorSummary → UInt32
  | success => 0
  | nothingHappened => 1
  | wouldBlock => 2
  | outOfResource => 3
  | notFound => 4
  | invalidState => 5
  | notSupported => 6
  | invalidArgument => 7
  | wrongArgument => 8
  | canceled => 9
  | statusChanged => 10
  | internal => 11
  | invalidResultValue => 63

def name : ErrorSummary → String
  | success => "Success"
  | nothingHappened => "NothingHappened"
  | wouldBlock => "WouldBlock"
  | outOfResource => "OutOfResource"
  | notFound => "NotFound"
  | invalidState => "InvalidState"
  | notSupported => "NotSupported"
  | invalidArgument => "InvalidArgument"
  | wrongArgument => "WrongArgument"
  | canceled => "Canceled"
  | statusChanged => "StatusChanged"
  | internal => "Internal"
  | invalidResultValue => "InvalidResultValue"

end ErrorSummary

namespace ErrorLevel

def all : List ErrorLevel :=
  [success, info, status, temporary, permanent, usage, reinitialize, reset, fatal]

def code : ErrorLevel → UInt32
  | success => 0
  | info => 1
  | status => 25
  | temporary => 26
  | permanent => 27
  | usage => 28
  | reinitialize => 29
  | reset => 30
  | fatal => 31

def name : ErrorLevel → String
  | success => "Success"
  | info => "Info"
  | status => "Status"
  | temporary => "Temporary"
  | permanent => "Permanent"
  | usage => "Usage"
  | reinitialize => "Reinitialize"
  | reset => "Reset"
  | fatal => "Fatal"

end ErrorLevel

structure ResultCode where
  description : ErrorDescription
  module : ErrorModule
  summary : ErrorSummary
  level : ErrorLevel
  deriving DecidableEq, Repr

namespace ResultCode

def success : ResultCode := ⟨.success, .common, .success, .success⟩

def unknown : ResultCode := ⟨.invalidResultValue, .invalidResultValue, .invalidResultValue, .fatal⟩

/-- The packed word: description, module, summary and level from bits 0, 10, 21 and 27 on. The bits 18
to 20 are reserved; only the unknown code sets them. -/
def raw (code : ResultCode) : UInt32 :=
  if code = unknown then 0xFFFFFFFF
  else
    code.description.code % 0x400 + code.module.code % 0x100 * 0x400 +
      code.summary.code % 0x40 * 0x200000 + code.level.code % 0x20 * 0x8000000

def isSuccess (code : ResultCode) : Bool := code.level = .success && code.summary = .success

def isError (code : ResultCode) : Bool := !code.isSuccess

def display (code : ResultCode) : String :=
  "0x" ++ Numeral.fixedUpper 8 code.raw.toNat ++ " (" ++
    ", ".intercalate [code.module.name, code.summary.name, code.level.name, code.description.name] ++
    ")"

end ResultCode

end GuestStorage
