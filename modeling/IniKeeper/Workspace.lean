import IniKeeper.Event
import IniKeeper.Failure
import IniKeeper.Store.Tree
import IniKeeper.Time.Instant

/-!
# Workspaces

A run of the program works in a workspace: a tree of files, a clock, the folders of the user, what
the world outside answers, and what was shown so far. A job is a step of a run; where a job fails,
what it had done to the workspace before stays done.
-/

namespace IniKeeper

/-- Something that a run shows. -/
inductive Emission where
  /-- Text on standard output. -/
  | output (text : Text)
  /-- Text on standard error. -/
  | complaint (text : Text)
  /-- A log event. -/
  | log (event : Event)
  deriving Repr, DecidableEq

/-- When old backups were last cleaned up. -/
structure Schedule where
  /-- Backups made since. -/
  made : Nat
  /-- The instant of the last time, if there was one. -/
  last : Option Instant
  deriving Repr, DecidableEq

/-- The schedule before the first backup. -/
def Schedule.fresh : Schedule := ⟨0, none⟩

/-- Something that a run asks the world outside for. -/
inductive Query where
  /-- The text behind a web address. -/
  | download (address : Text)
  /-- Whether the user wants to go on, put as a question to the terminal. -/
  | leave (question : Text)
  deriving Repr, DecidableEq

/-- What a query is answered with: a text, or yes or no. -/
def Query.Answer : Query → Type
  | download _ => Text
  | leave _ => Bool

/-- All that a run can see and change. -/
structure Workspace where
  /-- The files and folders. -/
  tree : Store.Tree
  /-- The clock. -/
  clock : Clock
  /-- The user's own folder. -/
  home : Text
  /-- The folder for settings. -/
  configHome : Text
  /-- What the world outside answers, or why it gives no answer. -/
  outside : (query : Query) → Except Text query.Answer
  /-- When old backups were cleaned up. -/
  schedule : Schedule
  /-- What was shown so far. -/
  shown : List Emission

namespace Workspace

/-- The content behind a web address, or why it cannot be had. -/
def download (workspace : Workspace) (address : Text) : Except Text Text :=
  workspace.outside (.download address)

/-- Whether the user wants to go on, or that nobody is there to tell. -/
def leave (workspace : Workspace) (question : Text) : Option Bool :=
  match workspace.outside (.leave question) with
  | .ok granted => some granted
  | .error _ => none

end Workspace

/-- A step of a run. -/
abbrev Job := ExceptT Failure (StateM Workspace)

namespace Job

/-- Show something. -/
def emit (emission : Emission) : Job Unit :=
  modify fun workspace => { workspace with shown := workspace.shown ++ [emission] }

/-- Show a text on standard output. -/
def put (text : Text) : Job Unit := emit (.output text)

/-- Show a line on standard output. -/
def putLine (text : Text) : Job Unit := put (text ++ ['\n'])

/-- Log events. -/
def log (events : List Event) : Job Unit :=
  modify fun workspace => { workspace with shown := workspace.shown ++ events.map .log }

/-- The instant that the clock shows next. -/
def now : Job Instant := do
  let clock := (← get).clock
  modify fun workspace => { workspace with clock := { clock with taken := clock.taken + 1 } }
  return clock.reading clock.taken

/-- The workspace as it is. -/
def workspace : Job Workspace := get

/-- The tree as it is. -/
def tree : Job Store.Tree := return (← workspace).tree

/-- Take the result of an attempt, or fail with what its error means here. -/
def ofExcept {ε α : Type} (meaning : ε → Failure) : Except ε α → Job α
  | .ok result => return result
  | .error error => throw (meaning error)

/-- Work on the tree, or fail with what an error means here. -/
def onTree {ε α : Type} (meaning : ε → Failure) (steps : Store.Steps ε α) : Job α := do
  let (result, changed) := steps.run (← tree)
  modify fun workspace => { workspace with tree := changed }
  ofExcept meaning result

end Job

end IniKeeper
