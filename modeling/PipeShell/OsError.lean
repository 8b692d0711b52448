/-!
# Failures of the operating system

The causes for which an operation on files or programs fails. `reason` is the wording that programs
use, `message` adds the number of the error where the error has one.
-/

namespace PipeShell

inductive OsError
  | noEntry
  | badFormat
  | denied
  | fileExists
  | notDirectory
  | isDirectory
  | invalidArgument
  | noSpace
  | brokenPipe
  | nameTooLong
  | notEmpty
  | tooManyLinks
  | invalidText
  | nulInPath
  | nulInArgument
  | wholeTree
  deriving DecidableEq, Repr

namespace OsError

def number? : OsError → Option Nat
  | .noEntry => some 2
  | .badFormat => some 8
  | .denied => some 13
  | .fileExists => some 17
  | .notDirectory => some 20
  | .isDirectory => some 21
  | .invalidArgument => some 22
  | .noSpace => some 28
  | .brokenPipe => some 32
  | .nameTooLong => some 36
  | .notEmpty => some 39
  | .tooManyLinks => some 40
  | .invalidText | .nulInPath | .nulInArgument | .wholeTree => none

def reason : OsError → String
  | .noEntry => "No such file or directory"
  | .badFormat => "Exec format error"
  | .denied => "Permission denied"
  | .fileExists => "File exists"
  | .notDirectory => "Not a directory"
  | .isDirectory => "Is a directory"
  | .invalidArgument => "Invalid argument"
  | .noSpace => "No space left on device"
  | .brokenPipe => "Broken pipe"
  | .nameTooLong => "File name too long"
  | .notEmpty => "Directory not empty"
  | .tooManyLinks => "Too many levels of symbolic links"
  | .invalidText => "stream did not contain valid UTF-8"
  | .nulInPath => "file name contained an unexpected NUL byte"
  | .nulInArgument => "nul byte found in provided data"
  | .wholeTree => "failed to create whole tree"

def message (e : OsError) : String :=
  match e.number? with
  | some n => e.reason ++ " (os error " ++ toString n ++ ")"
  | none => e.reason

def kind : OsError → String
  | .noEntry => "NotFound"
  | .badFormat | .wholeTree => "Uncategorized"
  | .denied => "PermissionDenied"
  | .fileExists => "AlreadyExists"
  | .notDirectory => "NotADirectory"
  | .isDirectory => "IsADirectory"
  | .invalidArgument | .nulInPath | .nulInArgument => "InvalidInput"
  | .noSpace => "StorageFull"
  | .brokenPipe => "BrokenPipe"
  | .nameTooLong => "InvalidFilename"
  | .notEmpty => "DirectoryNotEmpty"
  | .tooManyLinks => "FilesystemLoop"
  | .invalidText => "InvalidData"

def details (e : OsError) : String :=
  (match e.number? with
    | some n => "Os \x7b code: " ++ toString n ++ ", "
    | none => "Error \x7b ") ++
  "kind: " ++ e.kind ++ ", message: \"" ++ e.reason ++ "\" \x7d"

end OsError

end PipeShell
