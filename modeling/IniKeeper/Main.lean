import IniKeeper.Program
import Std.Time.DateTime.Timestamp

/-!
# The program

Takes a snapshot of the files that a command line is about, runs the program on it, and carries out
what the run changed. A run that comes to a question is made once more with the answer of the
terminal. Nothing is decided here.
-/

namespace IniKeeper

namespace Disk

open Store (Node Place Tree)

/-- The name that the disk knows a place by. -/
def nameOf (place : Place) : String := String.ofList ('/' :: Store.Path.join place)

/-- What the disk has at a place. -/
def node? (place : Place) : IO (Option Node) := do
  let name := (← IO.currentDir) / nameOf place
  if ← name.isDir then return some .folder
  if ← name.pathExists then return some (.file (← IO.FS.readBinFile name))
  return none

/-- The tree with what the disk has at a place. -/
def observe (tree : Tree) (place : Place) : IO Tree := do
  match ← node? place with
  | some node => return tree.set place node
  | none => return tree

/-- The tree with what the disk has on the way from a place along steps. -/
def observeAlong (tree : Tree) (place : Place) : List Text → IO Tree
  | [] => return tree
  | name :: rest => do
    let next := Tree.step place name
    observeAlong (← observe tree next) next rest

/-- The tree with what the disk has on the way along a path. -/
def observePath (tree : Tree) (path : Text) : IO Tree :=
  let place := if Store.Path.isAbsolute path then [] else tree.start
  observeAlong tree place (Store.Path.steps path)

/-- The tree with what the disk has in a folder. -/
def observeFolder (tree : Tree) (path : Text) : IO Tree := do
  let name := (← IO.currentDir) / String.ofList path
  if !(← name.isDir) then return tree
  (← name.readDir).foldlM
    (fun tree found => observePath tree (Store.Path.under path found.fileName.toList)) tree

/-- Make the disk hold what a place holds. -/
def store (place : Place) (node : Node) : IO Unit :=
  match node with
  | .folder => IO.FS.createDirAll (nameOf place)
  | .file content => IO.FS.writeBinFile (nameOf place) content

/-- Carry out the changes that lead from one tree to another. -/
def carryOut (before after : Tree) : IO Unit := do
  for (place, node) in after.nodes do
    if before.node? place != some node then store place node
  for (place, _) in before.nodes do
    if (after.node? place).isNone then IO.FS.removeFile (nameOf place)

end Disk

/-- The folder for settings, as the environment gives it. -/
def configHome (home : Text) : IO Text := do
  match ← IO.getEnv "XDG_CONFIG_HOME" with
  | some folder => if folder.startsWith "/" then return folder.toList
  | none => pure ()
  return Store.Path.under home ".config".toList

/-- The workspace that a command line is run in. -/
def observeWorkspace (words : List Text) (start : Instant) : IO Workspace := do
  let home := ((← IO.getEnv "HOME").getD "/").toList
  let config ← configHome home
  let empty := Store.Tree.empty (Store.Path.steps (toString (← IO.currentDir)).toList)
  let tree ← match Invocation.read words with
    | .error _ => pure empty
    | .ok invocation => do
      let seen ← (invocation.paths home config).foldlM Disk.observePath empty
      let shelf := invocation.shelfFolder home config
      Disk.observeFolder (← Disk.observePath seen shelf) shelf
  let outside := fun _ => .error "nothing outside can be reached".toList
  return ⟨tree, .startingAt start, home, config, outside, .fresh, []⟩

/-- The workspace with a user who gives every question the same answer. -/
def Workspace.answering (workspace : Workspace) (granted : Bool) : Workspace :=
  let outside := fun
    | .leave _ => .ok granted
    | .download address => workspace.outside (.download address)
  { workspace with outside := outside }

/-- The answer of the terminal to a question, if there is a terminal: a line that starts with the
letter y says yes, every other line no. -/
def askTerminal (question : Text) : IO (Option Bool) := do
  if !(← (← IO.getStderr).isTty) then return none
  IO.eprint (String.ofList question ++ " [y/N] ")
  let line ← (← IO.getStdin).getLine
  if line.isEmpty then return none
  return some (line.startsWith "y" || line.startsWith "Y")

/-- Display what came up in a run. -/
def display (report : RunReport) (time : Text) (emissions : List Emission) : IO Unit :=
  emissions.forM fun emission => do
    IO.print (String.ofList (RunReport.outputOf emission))
    IO.eprint (String.ofList (RunReport.complaintOf report.level time emission))

/-- Run the program and display what comes up. The report of the failure that ends a run at its
question is held back until the terminal gave no answer either. -/
def runAnswered (level : Option Text) (words : List Text) (workspace : Workspace) (time : Text) :
    IO RunReport := do
  let report := Invocation.runToEnd level words workspace
  match Invocation.openQuestion? words workspace with
  | none =>
    display report time report.shown
    return report
  | some question =>
    let before := report.shown.dropLast
    display report time before
    let last ← match ← askTerminal question with
      | none => pure report
      | some granted => pure (Invocation.runToEnd level words (workspace.answering granted))
    display last time (last.shown.drop before.length)
    return last

end IniKeeper

open IniKeeper in
/-- Run the program on the command line. -/
def main (arguments : List String) : IO UInt32 := do
  let words := arguments.map String.toList
  let elapsed := (← Std.Time.Timestamp.now).toNanosecondsSinceUnixEpoch
  let start := Instant.after1970 elapsed.toInt.toNat
  let workspace ← observeWorkspace words start
  let level := (← IO.getEnv "LOG_LEVEL").map String.toList
  let report ← runAnswered level words workspace start.logText
  Disk.carryOut workspace.tree report.workspace.tree
  return UInt32.ofNat report.code
