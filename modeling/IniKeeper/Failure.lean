import IniKeeper.Fault
import IniKeeper.Section

/-!
# Failed runs

What can end a run of the program. A failure is told as a chain of texts, from what the run was
doing to the cause behind it.
-/

namespace IniKeeper

/-- Why a run failed. -/
inductive Failure where
  /-- A fault that needs no further words. -/
  | fault (fault : Fault)
  /-- A cause that needs no further words. -/
  | cause (cause : Store.Cause)
  /-- The document could not be loaded. -/
  | notLoaded (path : Text) (fault : Fault)
  /-- The document could not be saved. -/
  | notSaved (path : Text) (fault : Fault)
  /-- The folder for backups could not be made. -/
  | noShelf (folder : Text) (cause : Store.Cause)
  /-- A file could not be backed up. -/
  | notBackedUp (path : Text) (cause : Store.Cause)
  /-- A backup could not be copied back. -/
  | notRestored (path : Text) (cause : Store.Cause)
  /-- No backup goes by that name. -/
  | noBackup (id : Text)
  /-- The settings file holds no valid settings. -/
  | badSettings
  /-- The command needs a file and was given none. -/
  | noFile
  /-- There is no such key. -/
  | noKey (key : Text) (sect : Option Text)
  /-- There is no such section. -/
  | noSection (name : Text)
  /-- There is no such source to merge. -/
  | noSource (path : Text)
  /-- The file that was checked is not valid. -/
  | notValid (path : Text)
  /-- Nobody is there to answer a question. -/
  | noAnswer (question : Text)
  deriving Repr, DecidableEq

namespace Failure

/-- A failure and what lies behind it, outermost first. -/
def chain : Failure → List Text
  | .fault inner => inner.chain
  | .cause inner => [inner.message]
  | notLoaded path why => ("Failed to load ".toList ++ path) :: why.chain
  | notSaved path why => ("Failed to save ".toList ++ path) :: why.chain
  | noShelf folder why =>
    ["Failed to create backup directory ".toList ++ folder, why.message]
  | notBackedUp path why => ["Failed to back up ".toList ++ path, why.message]
  | notRestored path why => ["Failed to restore ".toList ++ path, why.message]
  | noBackup id => ["Backup not found: ".toList ++ id]
  | badSettings => ["bad config".toList]
  | noFile => ["No INI file given. Use --file to specify one.".toList]
  | noKey key sect =>
    ["Key '".toList ++ key ++ "' not found in ".toList ++ Section.label sect]
  | noSection name => ["Section ".toList ++ Section.label (some name) ++ " not found".toList]
  | noSource path => ["File not found: ".toList ++ path]
  | notValid path => [path ++ " is not a valid INI file".toList]
  | noAnswer _ => ["IO error: not a terminal".toList, "not a terminal".toList]

/-- A text whose further lines stand as far to the right as `width` spaces bring them. -/
def indented (width : Nat) (text : Text) : Text :=
  text.flatMap fun c => if c == '\n' then '\n' :: List.replicate width ' ' else [c]

/-- The lines of a cause in a report, numbered where there are several causes. -/
def causeLines (several : Bool) (number : Nat) (text : Text) : Text :=
  if several then
    let digits := Nat.toDigits 10 number
    List.replicate (5 - digits.length) ' ' ++ digits ++ ": ".toList ++ indented 7 text ++ ['\n']
  else "    ".toList ++ indented 4 text ++ ['\n']

/-- The report of a failure: what failed, and under it the causes. -/
def report (failure : Failure) : Text :=
  match failure.chain with
  | [] => []
  | [only] => "Error: ".toList ++ only ++ ['\n']
  | first :: causes =>
    let lines := causes.zipIdx.map fun (text, number) =>
      causeLines (1 < causes.length) number text
    "Error: ".toList ++ first ++ "\n\nCaused by:\n".toList ++ lines.flatten

end Failure

end IniKeeper
