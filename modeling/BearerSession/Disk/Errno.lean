/-!
# Failures of file operations

A file operation fails with an error number of the operating system, whose text is the
system's message followed by `(os error n)`, or with a failure described by a message alone.
Each failure also has a kind, named as in diagnostics (`NotFound`, `IsADirectory`, ...).
-/

namespace BearerSession.Disk

/-- The error numbers that file operations here can produce. -/
inductive Errno where
  | noEntry
  | alreadyExists
  | notDirectory
  | isDirectory
  | busy
  | invalid
  | notEmpty
  | crossDevice
  deriving DecidableEq, Repr

namespace Errno

/-- The number of an error. -/
def code : Errno → Nat
  | .noEntry => 2
  | .alreadyExists => 17
  | .notDirectory => 20
  | .isDirectory => 21
  | .busy => 16
  | .invalid => 22
  | .notEmpty => 39
  | .crossDevice => 18

/-- The system's message for an error. -/
def text : Errno → String
  | .noEntry => "No such file or directory"
  | .alreadyExists => "File exists"
  | .notDirectory => "Not a directory"
  | .isDirectory => "Is a directory"
  | .busy => "Device or resource busy"
  | .invalid => "Invalid argument"
  | .notEmpty => "Directory not empty"
  | .crossDevice => "Invalid cross-device link"

/-- The kind of an error. -/
def kind : Errno → String
  | .noEntry => "NotFound"
  | .alreadyExists => "AlreadyExists"
  | .notDirectory => "NotADirectory"
  | .isDirectory => "IsADirectory"
  | .busy => "ResourceBusy"
  | .invalid => "InvalidInput"
  | .notEmpty => "DirectoryNotEmpty"
  | .crossDevice => "CrossesDevices"

end Errno

/-- A failed file operation. -/
inductive IoError where
  /-- An error number of the operating system. -/
  | os (errno : Errno)
  /-- A file's contents are not UTF-8 text. -/
  | notText
  /-- A failure described by its message. -/
  | other (message : String)
  deriving DecidableEq, Repr

namespace IoError

/-- The text of a failure. -/
def message : IoError → String
  | .os e => e.text ++ " (os error " ++ toString e.code ++ ")"
  | .notText => "stream did not contain valid UTF-8"
  | .other m => m

/-- The kind of a failure. -/
def kind : IoError → String
  | .os e => e.kind
  | .notText => "InvalidData"
  | .other _ => "Other"

/-- Whether a failure means that the file is not there. -/
def isNotFound : IoError → Bool
  | .os .noEntry => true
  | _ => false

end IoError

end BearerSession.Disk
