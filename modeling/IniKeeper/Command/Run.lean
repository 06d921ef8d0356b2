import IniKeeper.Command
import IniKeeper.Command.Listing
import IniKeeper.Session
import IniKeeper.Web.Address

/-!
# Running commands

A command reads the file it works on, does its part in memory, and, if that changed something, backs
the file up and writes it again. Nothing is written before all that can be refused was accepted. A
command that is about to undo something asks first: it goes on after a yes, ends without a change
after a no, and fails where nobody is there to answer.
-/

namespace IniKeeper

/-- What a command works with. -/
structure Context where
  /-- The settings of the user. -/
  settings : Settings
  /-- The file that the command works on. -/
  file : Text
  /-- Whether equals signs are written with spaces around them. -/
  padded : Bool
  deriving Repr, DecidableEq

namespace Settings

/-- Where the settings file is. -/
def path (configHome : Text) : Text :=
  Store.Path.under (Shelf.programFolder configHome) "config.toml".toList

/-- The settings in the settings file, or the defaults where there is no such file. -/
def load : Job Settings := do
  let workspace ← Job.workspace
  let path := path workspace.configHome
  if workspace.tree.has path then
    let text ← Job.ofExcept .cause (workspace.tree.readText path)
    match read? text with
    | some settings => return settings
    | none => throw .badSettings
  else return default

/-- Write settings to the settings file. -/
def save (settings : Settings) : Job Unit := do
  let configHome := (← Job.workspace).configHome
  Job.onTree .cause (.makeFolders (Shelf.programFolder configHome))
  Job.onTree .cause (.writeText (path configHome) settings.render)

end Settings

namespace Context

/-- Tell that something was done. -/
def succeed (message : Text) : Job Unit := Job.putLine ("✓ ".toList ++ message)

/-- Tell what the user should look at. -/
def warn (message : Text) : Job Unit := Job.putLine ("⚠ ".toList ++ message)

/-- Tell what could not be done. -/
def complain (message : Text) : Job Unit :=
  Job.emit (.complaint ("✗ ".toList ++ message ++ ['\n']))

/-- Ask whether to go on; where nobody is there to answer, the run ends. -/
def ask (question : Text) : Job Bool := do
  match (← Job.workspace).leave question with
  | some granted => return granted
  | none => throw (.noAnswer question)

/-- Whether to go on: the user may have said so in advance, and is asked otherwise. -/
def mayGoOn (yes : Bool) (question : Text) : Job Bool := if yes then return true else ask question

/-- Tell that the user did not want to go on. -/
def cancel : Job Unit := Job.putLine "Cancelled.".toList

/-- What a command line asks to work with. -/
def ofInvocation (invocation : Invocation) (settings : Settings) : Job Context := do
  let home := (← Job.workspace).home
  let file ←
    match invocation.file with
    | some path => pure (Store.Path.expandHome home path)
    | none => if invocation.command.needsFile then throw .noFile else pure []
  return ⟨settings, file, invocation.padded || settings.paddedEquals⟩

/-- Take the answer of a session: its events are logged, its fault ends the run. -/
def take (meaning : Fault → Failure) (answer : Session.Answer) : Job (Session × Report) := do
  Job.log answer.events
  let report ← Job.ofExcept meaning answer.result
  return (answer.session, report)

/-- Load the file. -/
def load (context : Context) : Job (Session × Report) := do
  take (.notLoaded context.file) (Session.new.loadPath (← Job.tree) context.file)

/-- Load the file, or start without anything where there is no such file. -/
def loadOrNew (context : Context) : Job Session := do
  if (← Job.tree).has context.file then return (← context.load).1 else return .new

/-- The shelf for the backups of the file. -/
def shelf (context : Context) : Job Shelf := do
  return .ofTarget (← Job.workspace).configHome context.settings context.file

/-- Back the file up and write it. -/
def save (context : Context) (session : Session) : Job Unit := do
  let _ ← (← context.shelf).createIfPresent context.file
  Job.log (← Job.onTree (.notSaved context.file) (session.save context.file context.padded))

/-- Take the result of a write to a document. -/
def accept {α : Type} (attempt : Except Refusal α) : Job α :=
  Job.ofExcept (fun reason => .fault (.refused reason)) attempt

/-- A session with another document. -/
def withDocument (session : Session) (document : Document) : Session :=
  { session with document := document }

end Context

namespace Command

open Context

/-- How messages name a key. -/
def keyLabel (sect : Option Text) (key : Text) : Text := Section.label sect ++ ' ' :: key

/-- Show the value of a key. -/
def runGet (context : Context) (key : Text) (sect default : Option Text) : Job Unit := do
  let document := (← context.load).1.document
  if document.hasKey sect key then Job.putLine (document.getString sect key [])
  else
    match default with
    | some text => Job.putLine text
    | none => throw (.noKey key sect)

/-- What setting a key did, told from the value before. -/
def setMessage (sect : Option Text) (key value : Text) (previous : Option Text) : Text :=
  match previous with
  | none => "Added ".toList ++ keyLabel sect key ++ " = ".toList ++ value
  | some old =>
    if old = value then keyLabel sect key ++ " unchanged".toList
    else "Updated ".toList ++ keyLabel sect key ++ ": ".toList ++ old ++ " → ".toList ++ value

/-- Set the value of a key. -/
def runSet (context : Context) (key value : Text) (sect comment : Option Text) : Job Unit := do
  let session ← context.loadOrNew
  let (document, previous) ← accept <|
    match comment with
    | some block => session.document.setStringWithComment sect key value (some block)
    | none => session.document.setString sect key value
  context.save (withDocument session document)
  succeed (setMessage sect key value previous)

/-- Show the comment of a key. -/
def runShowComment (context : Context) (key : Text) (sect : Option Text) : Job Unit := do
  let document := (← context.load).1.document
  Job.putLine ((document.comment? sect key).getD "(no comment)".toList)

/-- Replace the comment of a key; an empty text takes it away. -/
def runSetComment (context : Context) (key text : Text) (sect : Option Text) : Job Unit := do
  let session ← context.loadOrNew
  let comment := if text.isEmpty then none else some text
  let (document, _) ← accept (session.document.setComment sect key comment)
  context.save (withDocument session document)
  succeed ("Comment of ".toList ++ keyLabel sect key ++ " updated".toList)

/-- Whether a listing of everything shows a section: the global one only with something in it. -/
def isShown (sect : Section) : Bool :=
  sect.name.isSome || !sect.entries.isEmpty || sect.comment.isSome

/-- List the entries of all sections or of one. -/
def runList (context : Context) (sect : Option Text) : Job Unit := do
  let (session, report) ← context.load
  let document := session.document
  report.warnings.forM fun warning => warn (Listing.warningText warning)
  let chosen ←
    match sect with
    | none => pure (document.sections.filter isShown)
    | some name =>
      let found := document.sections.filter fun other => other.name == some (Text.trim name)
      if found.isEmpty then throw (.noSection name) else pure found
  if chosen.isEmpty then Job.putLine "No entries found.".toList
  else
    (chosen.flatMap Listing.sectionRows).forM Job.putLine
    Job.putLine []
    Job.putLine (Listing.totals document)

/-- List the sections. -/
def runSections (context : Context) : Job Unit := do
  let document := (← context.load).1.document
  document.sections.forM fun sect => Job.putLine (Listing.heading sect)

/-- Remove a key. -/
def runRemove (context : Context) (key : Text) (sect : Option Text) : Job Unit := do
  let (session, _) ← context.load
  match session.document.removeKey sect key with
  | none => complain (keyLabel sect key ++ " not found".toList)
  | some (entry, document) =>
    context.save (withDocument session document)
    succeed ("Removed ".toList ++ keyLabel sect key ++ " = ".toList ++ entry.valueText)

/-- Remove a section. -/
def runRemoveSection (context : Context) (name : Text) (yes : Bool) : Job Unit := do
  let (session, _) ← context.load
  let label := Section.label (some name)
  match session.document.removeSection (some name) with
  | none => complain ("Section ".toList ++ label ++ " not found".toList)
  | some (removed, document) =>
    Job.putLine ("Found section ".toList ++ label ++ " with ".toList ++
      Event.count removed.entries.length ++ " entries".toList)
    if ← mayGoOn yes "Remove this section?".toList then
      context.save (withDocument session document)
      succeed ("Removed section ".toList ++ label)
    else cancel

/-- The text to merge: what a web address holds, or what is in a file. -/
def sourceText (source : Text) : Job Text := do
  if Web.Address.isWeb source then
    Job.putLine ("Fetching from URL: ".toList ++ source)
    let fetched := Web.Address.fetch (← Job.workspace).download source
    Job.ofExcept (fun reason => .fault (.unfetched source reason)) fetched
  else
    let path := Store.Path.expandHome (← Job.workspace).home source
    let tree ← Job.tree
    if !tree.has path then throw (.noSource path)
    Job.ofExcept .fault (tree.textAt path)

/-- The settings of a document, each with the name of its section. -/
def settingsOf (document : Document) : List (Option Text × Entry) :=
  document.sections.flatMap fun sect =>
    (sect.entries.filter fun entry => !entry.isStandalone).map fun entry => (sect.name, entry)

/-- Whether a document has the key of an entry already. -/
def isPresent (document : Document) (place : Option Text × Entry) : Bool :=
  document.hasKey place.1 place.2.key

/-- Show what a merge would do. -/
def preview (current incoming : Document) (report : Report) : Job Unit := do
  let places := settingsOf incoming
  Job.putLine []
  Job.putLine ("Found ".toList ++ Event.count incoming.keyCount ++ " keys:".toList)
  Job.putLine []
  places.forM fun place =>
    Job.putLine (Listing.previewRow (isPresent current place) place.1 place.2)
  Job.putLine []
  report.warnings.forM fun warning => warn (Listing.warningText warning)
  let overwritten := places.countP (isPresent current)
  if 0 < overwritten then
    warn (Event.count overwritten ++ " existing keys will be overwritten".toList)

/-- Merge another text into the file. -/
def runMerge (context : Context) (source : Text) (yes : Bool) : Job Unit := do
  let content ← sourceText source
  let (incoming, report) ← take .fault (Session.new.load source content)
  let count := incoming.document.keyCount
  if count = 0 then Job.putLine "No keys found in source.".toList
  else
    let session ← context.loadOrNew
    preview session.document incoming.document report
    if ← mayGoOn yes "Proceed with merge?".toList then
      let (merged, _) ← take .fault (session.merge source content)
      context.save merged
      succeed ("Merged ".toList ++ Event.count count ++ " keys into ".toList ++ context.file)
    else cancel

/-- Show the plain form of the file without writing it. -/
def showFormatted (current formatted : Text) : Job Unit := do
  let count (text : Text) : Text := Event.count (Text.lines text).length
  Job.putLine "Dry run - showing formatted output:".toList
  Job.putLine []
  Job.putLine (Listing.rule 60)
  Job.put formatted
  Job.putLine (Listing.rule 60)
  Job.putLine []
  Job.putLine ("Current: ".toList ++ count current ++ " lines, Formatted: ".toList ++
    count formatted ++ " lines".toList)

/-- Write the file in its plain form. -/
def runFormat (context : Context) (dryRun : Bool) : Job Unit := do
  let (session, _) ← context.load
  let formatted := session.render context.padded
  let current ← Job.ofExcept .fault ((← Job.tree).textAt context.file)
  if formatted = current then succeed "File is already formatted".toList
  else if dryRun then showFormatted current formatted
  else
    context.save session
    succeed "File formatted".toList

/-- Tell what is worth a look in a file that is valid. -/
def showWarnings (warnings : List Warning) : Job Unit := do
  if warnings.isEmpty then succeed "No issues found".toList
  else
    Job.putLine "Parse warnings:".toList
    warnings.forM fun warning =>
      Job.putLine ("  ⚠ [WARNING] ".toList ++ Listing.warningText warning)
    Job.putLine []
    Job.putLine ("Found ".toList ++ Event.count warnings.length ++ " warning(s)".toList)

/-- Tell what is wrong with the file. -/
def runCheck (context : Context) : Job Unit := do
  let content ← Job.ofExcept .fault ((← Job.tree).textAt context.file)
  let answer := Session.new.load context.file content
  Job.log answer.events
  match answer.result with
  | .error (.badLine _ line text) =>
    Job.putLine "Issues found:".toList
    Job.putLine ("  ✗ [ERROR] Line ".toList ++ Event.count line ++
      ": unrecognized line ".toList ++ text)
    throw (.notValid context.file)
  | .error fault => throw (.fault fault)
  | .ok report =>
    let document := answer.session.document
    showWarnings report.warnings
    Job.putLine ("Checked ".toList ++ Event.count report.lines ++ " lines: ".toList ++
      Event.count document.keyCount ++ " keys in ".toList ++
      Event.count document.namedCount ++ " sections".toList)

/-- List the backups. -/
def runBackupList (shelf : Shelf) : Job Unit := do
  let backups ← shelf.list
  if backups.isEmpty then Job.putLine "No backups found.".toList
  else
    Job.putLine "Available backups:".toList
    Job.putLine []
    Job.putLine (Listing.backupColumns "ID".toList "TIMESTAMP".toList "SIZE".toList)
    Job.putLine (Listing.rule 66)
    backups.forM fun found => Job.putLine (Listing.backupRow found)
    Job.putLine []
    Job.putLine ("Total: ".toList ++ Event.count backups.length ++ " backup(s)".toList)

/-- Find a backup, ask whether to go on, and copy the backup back over the file. -/
def runRestore (context : Context) (shelf : Shelf) (id : Text) : Job Unit := do
  match ← shelf.find id with
  | none => throw (.noBackup id)
  | some found =>
    Job.putLine ("Restoring backup: ".toList ++ found.id ++ " (".toList ++ found.timestamp ++
      [')'])
    if ← ask "This will overwrite the current file. Continue?".toList then
      shelf.restore found.id context.file
      succeed ("Restored backup to ".toList ++ context.file)
    else cancel

/-- Remove all backups but the newest. -/
def runClean (shelf : Shelf) (keep : Nat) : Job Unit := do
  let removed ← shelf.keepNewest keep
  if removed = 0 then Job.putLine "No old backups to clean.".toList
  else
    succeed ("Removed ".toList ++ Event.count removed ++ " old backup(s), keeping ".toList ++
      Event.count keep)

/-- Do something with the backups. -/
def runBackup (context : Context) (command : BackupCommand) : Job Unit := do
  let shelf ← context.shelf
  match command with
  | .list => runBackupList shelf
  | .restore id => runRestore context shelf id
  | .clean keep => runClean shelf keep

/-- Show the settings, or write the defaults to the settings file unless it is there. -/
def runConfig (context : Context) (init : Bool) : Job Unit := do
  let workspace ← Job.workspace
  let path := Settings.path workspace.configHome
  if init then
    if workspace.tree.has path then warn (path ++ " already exists".toList)
    else
      Settings.default.save
      succeed ("Created ".toList ++ path)
  else
    Job.putLine path
    Job.put context.settings.render

/-- Carry out a command. -/
def run (context : Context) : Command → Job Unit
  | get key sect default => runGet context key sect default
  | set key value sect note => runSet context key value sect note
  | comment key none sect => runShowComment context key sect
  | comment key (some text) sect => runSetComment context key text sect
  | list sect => runList context sect
  | sections => runSections context
  | remove key sect => runRemove context key sect
  | removeSection name yes => runRemoveSection context name yes
  | merge source yes => runMerge context source yes
  | format dryRun => runFormat context dryRun
  | check => runCheck context
  | backup command => runBackup context command
  | config init => runConfig context init

end Command

/-- Carry out what a command line asks for. -/
def Invocation.run (invocation : Invocation) : Job Unit := do
  let settings ← Settings.load
  Job.log [.configured settings.describe]
  let context ← Context.ofInvocation invocation settings
  invocation.command.run context

end IniKeeper
