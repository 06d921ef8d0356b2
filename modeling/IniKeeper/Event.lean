import IniKeeper.Report

/-!
# Log events

Operations tell what they did as events, in order, and leave it to the caller which levels to show.
-/

namespace IniKeeper

/-- How much an event matters, from least to most. -/
inductive Level where
  /-- Every detail. -/
  | trace
  /-- What helps to find a mistake. -/
  | debug
  /-- What a run did. -/
  | info
  /-- What a user should look at. -/
  | warn
  /-- What went wrong. -/
  | error
  deriving Repr, DecidableEq

namespace Level

/-- The place of a level in their order. -/
def rank : Level → Nat
  | trace => 0
  | debug => 1
  | info => 2
  | warn => 3
  | error => 4

/-- The name of a level. -/
def name : Level → Text
  | trace => "TRACE".toList
  | debug => "DEBUG".toList
  | info => "INFO".toList
  | warn => "WARN".toList
  | error => "ERROR".toList

/-- The level that a word asks for, in capitals or not; an unknown word asks for warnings. -/
def ofWord (word : Text) : Level :=
  match String.ofList (Text.lowerAscii word) with
  | "trace" => trace
  | "debug" => debug
  | "info" => info
  | "error" => error
  | _ => warn

end Level

/-- Something that an operation did. -/
inductive Event where
  /-- A header repeated the name of an earlier one. -/
  | sectionAgain (origin : Text) (line : Nat) (name : Text)
  /-- A setting repeated the key of an earlier one. -/
  | keyAgain (origin : Text) (line : Nat) (key : Text)
  /-- A text was read to its end. -/
  | parsed (origin : Text) (report : Report)
  /-- A document was loaded, with so many named sections and keys. -/
  | loaded (origin : Text) (sections keys : Nat)
  /-- A text was merged, with so many settings. -/
  | merged (origin : Text) (keys : Nat)
  /-- A document was written to a file. -/
  | wrote (bytes : Nat) (path : Text)
  /-- A file was backed up. -/
  | backedUp (source backup : Text)
  /-- A run started with these settings. -/
  | configured (settings : Text)
  deriving Repr, DecidableEq

namespace Event

/-- How much an event matters. -/
def level : Event → Level
  | sectionAgain .. | keyAgain .. => .warn
  | loaded .. | merged .. => .info
  | parsed .. | wrote .. | backedUp .. | configured .. => .debug

/-- The part of the program that an event comes from, as log lines name it. -/
def target : Event → Text
  | sectionAgain .. | keyAgain .. | parsed .. => "inidoc::parser".toList
  | loaded .. | merged .. | wrote .. => "inidoc::ini_file".toList
  | backedUp .. => "inidoc::backup".toList
  | configured .. => "inidoc".toList

/-- A whole number in a message. -/
def count (n : Nat) : Text := Nat.toDigits 10 n

/-- The wording of an event. -/
def message : Event → Text
  | sectionAgain origin line name =>
    origin ++ ':' :: count line ++ ": section [".toList ++ name ++ "] opened again".toList
  | keyAgain origin line key =>
    origin ++ ':' :: count line ++ ": key '".toList ++ key ++ "' redefined".toList
  | parsed origin report =>
    origin ++ ": parsed ".toList ++ count report.lines ++ " lines, ".toList ++
      count report.sections ++ " sections, ".toList ++ count report.keys ++ " keys, ".toList ++
      count report.warnings.length ++ " warnings".toList
  | loaded origin sections keys =>
    "loaded ".toList ++ origin ++ ": ".toList ++ count sections ++ " sections, ".toList ++
      count keys ++ " keys".toList
  | merged origin keys =>
    "merged ".toList ++ origin ++ ": ".toList ++ count keys ++ " keys read".toList
  | wrote bytes path => "wrote ".toList ++ count bytes ++ " bytes to ".toList ++ path
  | backedUp source backup => "backup ".toList ++ source ++ " -> ".toList ++ backup
  | configured settings => "config=".toList ++ settings

end Event

end IniKeeper
