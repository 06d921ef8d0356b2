import IniKeeper.Command.Run

/-!
# Runs of the program

A run reads its command line, carries out what it asks for and ends with an exit code. What a run
complains about are its log events from a chosen level on, its complaints, and the report of the
failure that ended it, in the order in which they came up.
-/

namespace IniKeeper

/-- What a run showed and how it ended. -/
structure RunReport where
  /-- The exit code. -/
  code : Nat
  /-- What was shown, in order. -/
  shown : List Emission
  /-- The level from which events are logged. -/
  level : Level
  /-- The workspace that the run left. -/
  workspace : Workspace

namespace RunReport

/-- What an emission puts on standard output. -/
def outputOf : Emission → Text
  | .output text => text
  | _ => []

/-- The controls of the first block that could steer the terminal that shows a log. -/
def isSteering (c : Char) : Bool := ['\x07', '\x08', '\x0c', '\x1b', '\x7f'].contains c

/-- A character of a log message: one that could steer a terminal is written by its code. -/
def logChar (c : Char) : Text :=
  let digits := Nat.toDigits 16 c.toNat
  if isSteering c then ['\\', 'x'] ++ List.replicate (2 - digits.length) '0' ++ digits
  else if 0x80 ≤ c.toNat && c.toNat ≤ 0x9f then ['\\', 'u', '\x7b'] ++ digits ++ ['\x7d']
  else [c]

/-- The line of a log event, after the time at which it came up. -/
def logLine (time : Text) (event : Event) : Text :=
  let name := event.level.name
  time ++ ' ' :: List.replicate (5 - name.length) ' ' ++ name ++ ' ' :: event.target ++
    ": ".toList ++ event.message.flatMap logChar ++ ['\n']

/-- What an emission puts on standard error, where events count from a level on and `time` stands
for the time of every event. -/
def complaintOf (level : Level) (time : Text) : Emission → Text
  | .output _ => []
  | .complaint text => text
  | .log event => if level.rank ≤ event.level.rank then logLine time event else []

/-- What stands on standard output. -/
def output (report : RunReport) : Text := report.shown.flatMap outputOf

/-- What stands on standard error. -/
def complaints (report : RunReport) (time : Text) : Text :=
  report.shown.flatMap (complaintOf report.level time)

end RunReport

namespace Invocation

/-- The paths that a run may look at or change: the settings file, the file it works on, and the
source of a merge. -/
def paths (invocation : Invocation) (home configHome : Text) : List Text :=
  let source :=
    match invocation.command with
    | .merge source _ => [source]
    | _ => []
  Settings.path configHome ::
    (invocation.file.toList ++ source).map (Store.Path.expandHome home)

/-- The folder with the backups of the file that a run works on. -/
def shelfFolder (invocation : Invocation) (home configHome : Text) : Text :=
  let file := Store.Path.expandHome home (invocation.file.getD [])
  (Shelf.ofTarget configHome .default file).folder

/-- The level asked for in the settings file of a workspace, unless a word asks for another. -/
def levelFor (word : Option Text) (workspace : Workspace) : Level :=
  match word with
  | some word => .ofWord word
  | none =>
    match (Settings.load.run workspace).1 with
    | .ok settings => .ofWord settings.logLevel
    | .error _ => .warn

/-- What a run shows that is only told how to use the program, and its exit code. -/
def explain (stop : Usage.Stop) : Nat × Emission :=
  match stop with
  | .help => (0, .output (Command.synopsis ++ ['\n']))
  | .version => (0, .output "inidoc 0.3.0\n".toList)
  | mistake => (2, .complaint ("error: ".toList ++ mistake.message ++ ['\n']))

/-- Run the program on a command line, where a word may ask for a level of logging. -/
def runToEnd (levelWord : Option Text) (words : List Text) (workspace : Workspace) : RunReport :=
  let level := levelFor levelWord workspace
  match read words with
  | .error stop =>
    let (code, emission) := explain stop
    ⟨code, [emission], level, workspace⟩
  | .ok invocation =>
    let (result, left) := invocation.run.run workspace
    match result with
    | .ok _ => ⟨0, left.shown, level, left⟩
    | .error failure => ⟨1, left.shown ++ [.complaint failure.report], level, left⟩

/-- The question at which a run ends, since nobody is there to answer it. -/
def openQuestion? (words : List Text) (workspace : Workspace) : Option Text :=
  match read words with
  | .error _ => none
  | .ok invocation =>
    match (invocation.run.run workspace).1 with
    | .error (.noAnswer question) => some question
    | _ => none

end Invocation

end IniKeeper
