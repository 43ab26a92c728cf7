/-!
# File errors

Why an operation on files or sockets can fail.

## Main definitions

* `Files.Error` — the causes.
* `Files.Error.message`, `Files.Error.kind` — their wording, and the name of their class.
-/

namespace LivePages.Files

/-- The causes of failure. -/
inductive Error where
  | notFound
  | permissionDenied
  | alreadyExists
  | notADirectory
  | isADirectory
  | directoryNotEmpty
  | invalidArgument
  | nameTooLong
  | tooManyLinks
  /-- A file to be run is neither a program nor a script. -/
  | notAProgram
  /-- A path holds a NUL character. -/
  | nulInPath
  /-- A text file holds bytes that are no text. -/
  | invalidText
  deriving DecidableEq, Repr

/-- What went wrong, in a few words. -/
def Error.reason : Error → String
  | .notFound => "No such file or directory"
  | .permissionDenied => "Permission denied"
  | .alreadyExists => "File exists"
  | .notADirectory => "Not a directory"
  | .isADirectory => "Is a directory"
  | .directoryNotEmpty => "Directory not empty"
  | .invalidArgument => "Invalid argument"
  | .nameTooLong => "File name too long"
  | .tooManyLinks => "Too many levels of symbolic links"
  | .notAProgram => "Exec format error"
  | .nulInPath => "file name contained an unexpected NUL byte"
  | .invalidText => "stream did not contain valid UTF-8"

/-- The number that the system has for an error, if it comes from the system. -/
def Error.number? : Error → Option Nat
  | .notFound => some 2
  | .permissionDenied => some 13
  | .alreadyExists => some 17
  | .notADirectory => some 20
  | .isADirectory => some 21
  | .directoryNotEmpty => some 39
  | .invalidArgument => some 22
  | .nameTooLong => some 36
  | .tooManyLinks => some 40
  | .notAProgram => some 8
  | .nulInPath | .invalidText => none

/-- The wording of an error, with the number of the system error where there is one. -/
def Error.message (error : Error) : String :=
  match error.number? with
  | some number => s!"{error.reason} (os error {number})"
  | none => error.reason

/-- The name of the class of an error. -/
def Error.kind : Error → String
  | .notFound => "NotFound"
  | .permissionDenied => "PermissionDenied"
  | .alreadyExists => "AlreadyExists"
  | .notADirectory => "NotADirectory"
  | .isADirectory => "IsADirectory"
  | .directoryNotEmpty => "DirectoryNotEmpty"
  | .invalidArgument => "InvalidInput"
  | .nameTooLong => "InvalidFilename"
  | .tooManyLinks => "FilesystemLoop"
  | .notAProgram => "ExecutableFormat"
  | .nulInPath => "InvalidInput"
  | .invalidText => "InvalidData"

end LivePages.Files
