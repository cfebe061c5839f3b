/-! # Refusals of the file system -/

namespace RemoteDesk

/-- Why the file system refused an operation on a path. -/
inductive OsError where
  | notFound
  /-- The target is in use as `.` or `..`. -/
  | busy
  | alreadyExists
  /-- A component that should be a directory is a file. -/
  | notDirectory
  | isDirectory
  /-- A component, or the whole path, is too long. -/
  | nameTooLong
  | nulInName
  /-- The bytes of a file do not spell a text. -/
  | notText
  deriving Repr, DecidableEq

def OsError.message : OsError → String
  | .notFound => "No such file or directory (os error 2)"
  | .busy => "Device or resource busy (os error 16)"
  | .alreadyExists => "File exists (os error 17)"
  | .notDirectory => "Not a directory (os error 20)"
  | .isDirectory => "Is a directory (os error 21)"
  | .nameTooLong => "File name too long (os error 36)"
  | .nulInName => "file name contained an unexpected NUL byte"
  | .notText => "stream did not contain valid UTF-8"

end RemoteDesk
