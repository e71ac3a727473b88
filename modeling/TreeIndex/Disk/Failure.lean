/-!
# Failures of the disk

* `Failure`: why the disk refuses a request; `Failure.message`: the same in words, with the number under which
  the system knows it.
-/

namespace TreeIndex.Disk

/-- Why the disk **refuses** a request. -/
inductive Failure where
  | notFound
  | alreadyThere
  | notADirectory
  | isADirectory
  | tooManyLinks
  /-- The bytes of the file are no text. -/
  | notText
  /-- Only a file can be copied. -/
  | notAFile
  /-- No entry can have so long a name. -/
  | nameTooLong
  /-- A NUL stands in the path. -/
  | nulInPath
  | permissionDenied
  | storageFull
  | inputOutput
deriving DecidableEq, Inhabited

/-- A failure in words. -/
def Failure.message : Failure → String
  | notFound => "No such file or directory (os error 2)"
  | alreadyThere => "File exists (os error 17)"
  | notADirectory => "Not a directory (os error 20)"
  | isADirectory => "Is a directory (os error 21)"
  | tooManyLinks => "Too many levels of symbolic links (os error 40)"
  | notText => "stream did not contain valid UTF-8"
  | notAFile => "the source path is neither a regular file nor a symlink to a regular file"
  | nameTooLong => "File name too long (os error 36)"
  | nulInPath => "file name contained an unexpected NUL byte"
  | permissionDenied => "Permission denied (os error 13)"
  | storageFull => "No space left on device (os error 28)"
  | inputOutput => "Input/output error (os error 5)"

end TreeIndex.Disk
