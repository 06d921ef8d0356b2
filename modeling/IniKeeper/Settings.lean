import IniKeeper.Toml.Document
import IniKeeper.Text.Quoted

/-!
# Settings

The settings file has three tables: how documents are written, how many backups of a file are kept,
and which events are logged. A missing table has its defaults, unknown keys are ignored, and a
table may also be given as the list of its values in order. The number of backups has no default of
its own inside its table.
-/

namespace IniKeeper

/-- What a user can choose. -/
structure Settings where
  /-- Whether equals signs are written with spaces around them. -/
  paddedEquals : Bool
  /-- How many backups of a file are kept. -/
  maxBackups : Nat
  /-- The word for the level from which events are logged. -/
  logLevel : Text
  deriving Repr, DecidableEq

namespace Settings

/-- The settings of a user who chose nothing. -/
def default : Settings := ⟨false, 20, "warn".toList⟩

/-- The value of the only setting of a table; the outer option is none where the table cannot be
read, the inner where the setting is missing. -/
def only? (items : Toml.Items) (table key : Text) : Option (Option Toml.Value) :=
  match items.get? table with
  | none => some none
  | some (.table _ inner) | some (.inline inner) => some (Toml.Items.get? inner key)
  | some (.array values) => some values.head?
  | some (.tables before last) =>
    some (some (.table .defined ((before ++ [last]).head?.getD last)))
  | some .moment => some none
  | some _ => none

/-- The choice about equals signs. -/
def paddedEquals? (items : Toml.Items) : Option Bool := do
  match ← only? items "format".toList "padded_equals".toList with
  | none => some default.paddedEquals
  | some (.boolean padded) => some padded
  | some _ => none

/-- The number of backups; a table without it is no valid table. -/
def maxBackups? (items : Toml.Items) : Option Nat := do
  match ← only? items "backup".toList "max_count".toList, items.get? "backup".toList with
  | none, none => some default.maxBackups
  | some (.integer (.ofNat count)), _ => some count
  | _, _ => none

/-- The word for the log level. -/
def logLevel? (items : Toml.Items) : Option Text := do
  match ← only? items "log".toList "level".toList with
  | none => some default.logLevel
  | some (.string level) => some level
  | some _ => none

/-- The settings in the text of a settings file. -/
def read? (text : Text) : Option Settings := do
  let items ← Toml.Document.read? text
  some ⟨← paddedEquals? items, ← maxBackups? items, ← logLevel? items⟩

/-- The text of a settings file. -/
def render (settings : Settings) : Text :=
  "[format]\npadded_equals = ".toList ++ (toString settings.paddedEquals).toList ++
    "\n\n[backup]\nmax_count = ".toList ++ Nat.toDigits 10 settings.maxBackups ++
    "\n\n[log]\nlevel = ".toList ++ Toml.Quoted.write settings.logLevel ++ ['\n']

/-- The settings as a log line shows them. -/
def describe (settings : Settings) : Text :=
  "Config \x7b format: FormatConfig \x7b padded_equals: ".toList ++
    (toString settings.paddedEquals).toList ++
    " \x7d, backup: BackupConfig \x7b max_count: ".toList ++
    Nat.toDigits 10 settings.maxBackups ++
    " \x7d, log: LogConfig \x7b level: ".toList ++ Text.quoted settings.logLevel ++
    " \x7d \x7d".toList

end Settings

end IniKeeper
