import GuestStorage.ResultCode.Basic

namespace GuestStorage.ResultCode

private def fs (description : ErrorDescription) (summary : ErrorSummary) (level : ErrorLevel) :
    ResultCode :=
  ⟨description, .fs, summary, level⟩

def invalidPath : ResultCode := fs .invalidPath .invalidArgument .usage

def unsupportedOpenFlags : ResultCode := fs .unsupportedOpenFlags .notSupported .usage

def invalidOpenFlags : ResultCode := fs .invalidOpenFlags .canceled .status

def invalidReadFlag : ResultCode := fs .invalidReadFlag .notSupported .usage

def fileNotFound : ResultCode := fs .fileNotFound .notFound .status

def pathNotFound : ResultCode := fs .pathNotFound .notFound .status

def notFound : ResultCode := fs .notFound .notFound .status

def unexpectedFileOrDirectory : ResultCode := fs .unexpectedFileOrDirectory .notSupported .usage

/-- A file where a directory is wanted or the other way round, as the SD card reports it. -/
def unexpectedKindOnCard : ResultCode := fs .notAFile .canceled .status

def directoryAlreadyExists : ResultCode := fs .directoryAlreadyExists .nothingHappened .status

def fileAlreadyExists : ResultCode := fs .fileAlreadyExists .nothingHappened .status

def alreadyExists : ResultCode := fs .alreadyExists .nothingHappened .status

def directoryNotEmpty : ResultCode := fs .directoryNotEmpty .canceled .status

def notFormatted : ResultCode := fs .notFormatted .invalidState .status

/-- Extended save data of one title that was never created. -/
def notFoundInvalidState : ResultCode := fs .notFound .invalidState .status

def writeBeyondEnd : ResultCode := fs .writeBeyondEnd .invalidArgument .usage

def tooLarge : ResultCode := fs .tooLarge .outOfResource .info

def unsupportedOperation : ResultCode := fs .notAuthorized .notSupported .permanent

def renameFailed : ResultCode := fs .noData .nothingHappened .status

def operationCanceled : ResultCode := fs .noData .canceled .status

def archiveNotMounted : ResultCode := fs .archiveNotMounted .notFound .permanent

def invalidArchiveHandle : ResultCode := fs .invalidHandle .notFound .permanent

def catalogue : List (String × ResultCode) :=
  [("SUCCESS", success), ("UNKNOWN", unknown),
    ("ERROR_INVALID_PATH", invalidPath),
    ("ERROR_UNSUPPORTED_OPEN_FLAGS", unsupportedOpenFlags),
    ("ERROR_INVALID_OPEN_FLAGS", invalidOpenFlags),
    ("ERROR_INVALID_READ_FLAG", invalidReadFlag),
    ("ERROR_FILE_NOT_FOUND", fileNotFound),
    ("ERROR_PATH_NOT_FOUND", pathNotFound),
    ("ERROR_NOT_FOUND", notFound),
    ("ERROR_UNEXPECTED_FILE_OR_DIRECTORY", unexpectedFileOrDirectory),
    ("ERROR_UNEXPECTED_FILE_OR_DIRECTORY_SDMC", unexpectedKindOnCard),
    ("ERROR_DIRECTORY_ALREADY_EXISTS", directoryAlreadyExists),
    ("ERROR_FILE_ALREADY_EXISTS", fileAlreadyExists),
    ("ERROR_ALREADY_EXISTS", alreadyExists),
    ("ERROR_DIRECTORY_NOT_EMPTY", directoryNotEmpty),
    ("ERROR_NOT_FORMATTED", notFormatted),
    ("ERROR_NOT_FOUND_INVALID_STATE", notFoundInvalidState),
    ("ERROR_WRITE_BEYOND_END", writeBeyondEnd),
    ("ERROR_TOO_LARGE", tooLarge),
    ("ERROR_UNSUPPORTED_OPERATION", unsupportedOperation),
    ("ERROR_RENAME_FAILED", renameFailed),
    ("ERROR_OPERATION_CANCELED", operationCanceled),
    ("ERROR_ARCHIVE_NOT_MOUNTED", archiveNotMounted),
    ("ERROR_INVALID_ARCHIVE_HANDLE", invalidArchiveHandle)]

end GuestStorage.ResultCode
