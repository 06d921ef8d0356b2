import IniKeeper.Settings
import IniKeeper.Workspace

/-!
# Backups

A shelf is the folder in which the backups of one file are kept. A backup is a file there whose name
is the stamp of the instant it was made, so the names sort by age. Making a backup now and then
cleans up the oldest ones; restoring one first backs up what it is about to overwrite.
-/

namespace IniKeeper

/-- A backup on a shelf. -/
structure Backup where
  /-- The name without its extension. -/
  id : Text
  /-- Where it is kept. -/
  path : Text
  /-- The date and time in its name. -/
  timestamp : Text
  /-- Its name. -/
  filename : Text
  /-- How many bytes it holds. -/
  size : Nat
  deriving Repr, DecidableEq

namespace Backup

/-- The extension of backups, with its dot. -/
def extension : Text := ['.', 'b', 'a', 'k']

/-- A name spelled backwards without the extension, however often it is there. -/
def dropBackwards : Text → Text
  | 'k' :: 'a' :: 'b' :: '.' :: rest => dropBackwards rest
  | name => name

/-- A name without the extension, however often it ends in it. -/
def dropExtension (name : Text) : Text := (dropBackwards name.reverse).reverse

/-- Name of the backup made at an instant. -/
def nameAt (instant : Instant) : Text := instant.stamp ++ extension

/-- The parts of a name before its second low line. -/
def timestampOf (name : Text) : Text := ['_'].intercalate ((name.splitOn '_').take 2)

/-- What a folder is counted as, in bytes. -/
def folderSize : Nat := 4096

/-- The size of what a place holds. -/
def sizeOf : Store.Node → Nat
  | .file content => content.size
  | .folder => folderSize

/-- The backup that something in a folder is, if its name has the extension. -/
def ofNode? (folder name : Text) (node : Store.Node) : Option Backup :=
  if Store.Path.extension? name == some ['b', 'a', 'k'] then
    some ⟨dropExtension name, Store.Path.under folder name, timestampOf name, name, sizeOf node⟩
  else none

/-- Whether a backup goes by an id: it has that id, or its name has it as a part. -/
def goesBy (id : Text) (backup : Backup) : Bool :=
  backup.id == id || Text.hasPart id backup.filename

end Backup

/-- Where the backups of one file are kept, and how many. -/
structure Shelf where
  /-- The folder. -/
  folder : Text
  /-- How many backups a cleanup leaves. -/
  limit : Nat
  deriving Repr, DecidableEq

namespace Shelf

/-- The folder for settings and backups. -/
def programFolder (configHome : Text) : Text := Store.Path.under configHome "inidoc".toList

/-- The name of the folder for the backups of a file: the name of the file. -/
def folderName (target : Text) : Text :=
  (Store.Path.fileName? target).getD "document.ini".toList

/-- The shelf for the backups of a file. -/
def ofTarget (configHome : Text) (settings : Settings) (target : Text) : Shelf :=
  let folder := Store.Path.under (programFolder configHome) "backups".toList
  ⟨Store.Path.under folder (folderName target), settings.maxBackups⟩

/-- The backups in a tree, newest first. -/
def backups (shelf : Shelf) (tree : Store.Tree) : Except Store.Cause (List Backup) :=
  if tree.has shelf.folder then do
    let found := (← tree.list shelf.folder).filterMap fun (name, node) =>
      Backup.ofNode? shelf.folder name node
    .ok (found.mergeSort fun left right => !decide (left.id < right.id))
  else .ok []

/-- The backups, newest first. -/
def list (shelf : Shelf) : Job (List Backup) := do
  Job.ofExcept .cause (shelf.backups (← Job.tree))

/-- The newest backup that goes by an id. -/
def find (shelf : Shelf) (id : Text) : Job (Option Backup) := do
  return (← shelf.list).find? (Backup.goesBy id)

/-- Remove backups one by one. -/
def removeAll : List Backup → Job Unit
  | [] => return ()
  | backup :: rest => do
    Job.onTree .cause (.once (·.remove backup.path))
    removeAll rest

/-- Remove all backups but the newest; give how many were removed. -/
def keepNewest (shelf : Shelf) (count : Nat) : Job Nat := do
  let old := (← shelf.list).drop count
  removeAll old
  return old.length

/-- Remove what the limit of the shelf leaves no room for. -/
def cleanUp (shelf : Shelf) : Job Nat := shelf.keepNewest shelf.limit

/-- The most backups made without a cleanup. -/
def cleanupInterval : Nat := 10

/-- Whether it is time for a cleanup: none was made yet, or enough backups were made since, or an
hour has passed. The clock is read only where the answer hangs on it. -/
def isCleanupDue : Job Bool := do
  let schedule := (← Job.workspace).schedule
  if cleanupInterval ≤ schedule.made then return true
  match schedule.last with
  | none => return true
  | some last => return last.hourPassed (← Job.now)

/-- Clean up if it is time for it, and keep the schedule. -/
def cleanUpIfDue (shelf : Shelf) : Job Unit := do
  if ← isCleanupDue then
    let _ ← shelf.cleanUp
    let last ← Job.now
    modify fun workspace => { workspace with schedule := ⟨0, some last⟩ }
  else
    modify fun workspace =>
      { workspace with schedule := { workspace.schedule with made := workspace.schedule.made + 1 } }

/-- Back up a file; give the path of the backup. -/
def create (shelf : Shelf) (source : Text) : Job Text := do
  Job.onTree (.noShelf shelf.folder) (.makeFolders shelf.folder)
  let path := Store.Path.under shelf.folder (Backup.nameAt (← Job.now))
  Job.onTree (.notBackedUp source) (.once (·.copy source path))
  Job.log [.backedUp source path]
  shelf.cleanUpIfDue
  return path

/-- Back up a file if there is one. -/
def createIfPresent (shelf : Shelf) (source : Text) : Job (Option Text) := do
  if (← Job.tree).has source then return some (← shelf.create source) else return none

/-- Copy the newest backup that goes by an id over a file, which is backed up before. -/
def restore (shelf : Shelf) (id target : Text) : Job Unit := do
  match ← shelf.find id with
  | none => throw (.noBackup id)
  | some backup =>
    let _ ← shelf.createIfPresent target
    Job.onTree (.notRestored target) (.once (·.copy backup.path target))

end Shelf

end IniKeeper
