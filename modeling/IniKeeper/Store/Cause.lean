import IniKeeper.Text

/-!
# Why a file operation failed

The causes that a tree of files and folders can answer with, and the wording that an operating
system gives them.
-/

namespace IniKeeper

namespace Store

/-- Why an operation on a path failed. -/
inductive Cause where
  /-- Nothing has that path. -/
  | missing
  /-- Something has that path already. -/
  | occupied
  /-- A file stands where a folder is needed. -/
  | notFolder
  /-- A folder stands where a file is needed. -/
  | isFolder
  /-- A name in the path is longer than the store keeps. -/
  | nameTooLong
  /-- The path holds a zero character. -/
  | badName
  /-- The content of a file is not text. -/
  | notText
  /-- The file to copy is no regular file. -/
  | notRegular
  deriving Repr, DecidableEq

/-- The wording of a cause. -/
def Cause.message : Cause → Text
  | missing => "No such file or directory (os error 2)".toList
  | occupied => "File exists (os error 17)".toList
  | notFolder => "Not a directory (os error 20)".toList
  | isFolder => "Is a directory (os error 21)".toList
  | nameTooLong => "File name too long (os error 36)".toList
  | badName => "file name contained an unexpected NUL byte".toList
  | notText => "stream did not contain valid UTF-8".toList
  | notRegular =>
    "the source path is neither a regular file nor a symlink to a regular file".toList

end Store

end IniKeeper
