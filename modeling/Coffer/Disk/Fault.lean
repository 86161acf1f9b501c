/-!
# Faults of the file system

The reasons why a file operation is refused, as far as the store can meet them.
-/

namespace Coffer

/-- Why the file system refuses an operation. -/
inductive DiskFault where
  | notFound
  | alreadyExists
  | notDirectory
  | isDirectory
  | busy
  /-- A name, or a whole path, is longer than the system takes. -/
  | nameTooLong
  | nullInPath
  /-- The operation makes no sense for the path. -/
  | invalid
  deriving Repr, DecidableEq

/-- What the system says of the fault. -/
def DiskFault.message : DiskFault → String
  | .notFound => "No such file or directory (os error 2)"
  | .alreadyExists => "File exists (os error 17)"
  | .notDirectory => "Not a directory (os error 20)"
  | .isDirectory => "Is a directory (os error 21)"
  | .busy => "Device or resource busy (os error 16)"
  | .nameTooLong => "File name too long (os error 36)"
  | .nullInPath => "file name contained an unexpected NUL byte"
  | .invalid => "Invalid argument (os error 22)"

end Coffer
