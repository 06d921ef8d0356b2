import IniKeeper.Command.Usage

/-!
# Commands

What the program can be asked to do, and how that is written on a command line.
-/

namespace IniKeeper

/-- What to do with the backups of the file. -/
inductive BackupCommand where
  /-- List them. -/
  | list
  /-- Copy one back over the file. -/
  | restore (id : Text)
  /-- Remove all but the newest. -/
  | clean (keep : Nat)
  deriving Repr, DecidableEq

/-- What to do. -/
inductive Command where
  /-- Show the value of a key, or a default. -/
  | get (key : Text) (sect default : Option Text)
  /-- Set the value of a key, and its comment if one is given. -/
  | set (key value : Text) (sect comment : Option Text)
  /-- Show the comment of a key, or replace it. -/
  | comment (key : Text) (text sect : Option Text)
  /-- List the entries of all sections or of one. -/
  | list (sect : Option Text)
  /-- List the sections. -/
  | sections
  /-- Remove a key. -/
  | remove (key : Text) (sect : Option Text)
  /-- Remove a section. -/
  | removeSection (name : Text) (yes : Bool)
  /-- Merge another file, or what a web address holds. -/
  | merge (source : Text) (yes : Bool)
  /-- Write the file in its plain form, or only show that form. -/
  | format (dryRun : Bool)
  /-- Tell what is wrong with the file. -/
  | check
  /-- Do something with the backups. -/
  | backup (command : BackupCommand)
  /-- Show the settings, or write the defaults to the settings file. -/
  | config (init : Bool)
  deriving Repr, DecidableEq

/-- What to do, with which file, and how to write it. -/
structure Invocation where
  /-- The file, if one was given. -/
  file : Option Text
  /-- Whether equals signs are to be written with spaces around them. -/
  padded : Bool
  /-- What to do. -/
  command : Command
  deriving Repr, DecidableEq

namespace Command

open Usage (Argument Given Spec Stop Switch)

/-- An option with a value. -/
def valued (name : String) (letter : Option Char) (shape : Usage.Shape) : Switch :=
  ⟨name.toList, letter, .value shape⟩

/-- An option without a value. -/
def flag (name : String) (letter : Option Char) : Switch := ⟨name.toList, letter, .flag⟩

/-- The options that every command takes. -/
def common : List Switch :=
  [valued "file" (some 'f') .path, flag "padded" none, ⟨"help".toList, some 'h', .help⟩]

/-- The option for a section. -/
def inSection : Switch := valued "section" (some 's') .text

/-- The option that answers a question in advance. -/
def withYes : Switch := flag "yes" (some 'y')

/-- An argument that must be given. -/
def needs (name : String) : Argument := ⟨name.toList, true⟩

/-- A command without subcommands. -/
def leaf (names : List String) (switches : List Switch) (arguments : List Argument) : Spec :=
  .mk (names.map String.toList) (switches ++ common) arguments []

/-- What the subcommands for backups accept. -/
def backupSpecs : List Spec :=
  [leaf ["list"] [] [],
   leaf ["restore"] [] [needs "id"],
   leaf ["clean"] [valued "keep" none .count] []]

/-- What the commands accept. -/
def specs : List Spec :=
  [leaf ["get"] [inSection, valued "default" (some 'd') .text] [needs "key"],
   leaf ["set"] [inSection, valued "comment" (some 'c') .text] [needs "key", needs "value"],
   leaf ["comment"] [inSection] [needs "key", ⟨"text".toList, false⟩],
   leaf ["list", "ls"] [inSection] [],
   leaf ["sections"] [] [],
   leaf ["remove", "rm"] [inSection] [needs "key"],
   leaf ["remove-section", "rm-section"] [withYes] [needs "section"],
   leaf ["merge"] [withYes] [needs "source"],
   leaf ["format"] [flag "dry-run" none] [],
   leaf ["check"] [] [],
   .mk ["backup".toList] common [] backupSpecs,
   leaf ["config"] [flag "init" none] []]

/-- What the program accepts. -/
def program : Spec :=
  .mk ["inidoc".toList] (⟨"version".toList, some 'V', .version⟩ :: common) [] specs

/-- The names of all commands, as help shows them. -/
def synopsis : Text :=
  "usage: inidoc --file <path> <command>\ncommands: ".toList ++
    [',', ' '].intercalate (specs.map fun spec => spec.names.headD [])

/-- The value given for a name. -/
def value? (given : Given) (name : String) : Option Text := List.lookup name.toList given.values

/-- The value given for a name that must have one. -/
def value (given : Given) (name : String) : Text := (value? given name).getD []

/-- Whether an option without a value was given. -/
def isSet (given : Given) (name : String) : Bool := (value? given name).isSome

/-- How many backups a cleanup keeps unless told otherwise. -/
def defaultKeep : Nat := 20

/-- What to do with the backups. -/
def ofBackup (given : Given) : BackupCommand :=
  match String.ofList given.command with
  | "restore" => .restore (value given "id")
  | "clean" => .clean (((value? given "keep").bind Integer.readNatural?).getD defaultKeep)
  | _ => .list

/-- What to do, from what was given to the command and to its subcommand. -/
def ofGiven? (given : Given) (rest : List Given) : Option Command :=
  match String.ofList given.command with
  | "get" => some (.get (value given "key") (value? given "section") (value? given "default"))
  | "set" =>
    some (.set (value given "key") (value given "value") (value? given "section")
      (value? given "comment"))
  | "comment" =>
    some (.comment (value given "key") (value? given "text") (value? given "section"))
  | "list" => some (.list (value? given "section"))
  | "sections" => some .sections
  | "remove" => some (.remove (value given "key") (value? given "section"))
  | "remove-section" => some (.removeSection (value given "section") (isSet given "yes"))
  | "merge" => some (.merge (value given "source") (isSet given "yes"))
  | "format" => some (.format (isSet given "dry-run"))
  | "check" => some .check
  | "backup" => rest.head?.map fun inner => .backup (ofBackup inner)
  | "config" => some (.config (isSet given "init"))
  | _ => none

/-- Whether a command works on a file. -/
def needsFile : Command → Bool
  | config _ => false
  | _ => true

end Command

/-- What a command line asks for, or why it asks for nothing that can be done. An option that every
command takes may stand at any of them; of two files the innermost counts. -/
def Invocation.read (words : List Text) : Except Usage.Stop Invocation := do
  let given ← Usage.scan Command.program .start words
  let file := given.reverse.findSome? fun level => Command.value? level "file"
  let padded := given.any fun level => Command.isSet level "padded"
  match given with
  | _ :: first :: rest =>
    match Command.ofGiven? first rest with
    | some command => .ok ⟨file, padded, command⟩
    | none => .error .missingSubcommand
  | _ => .error .missingSubcommand

end IniKeeper
