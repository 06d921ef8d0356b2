import IniKeeper.Refusal
import IniKeeper.Store.Cause
import IniKeeper.Value

/-!
# Faults

Everything that can go wrong with a document, its text or its file. Each fault keeps its cause; the
wording is one function.
-/

namespace IniKeeper

/-- Why an operation on a document or its file failed. -/
inductive Fault where
  /-- A line that is not recognized, with its source, its number from one, and its text. -/
  | badLine (origin : Text) (line : Nat) (text : Text)
  /-- A refused write. -/
  | refused (reason : Refusal)
  /-- A stored value that is none of the wanted kind. -/
  | unreadable (sect : Option Text) (key value : Text) (kind : Kind)
  /-- A second load into one session. -/
  | alreadyLoaded (origin : Text)
  /-- A file that could not be read or written. -/
  | inaccessible (path : Text) (cause : Store.Cause)
  /-- A web address that could not be fetched. -/
  | unfetched (address reason : Text)
  deriving Repr, DecidableEq

namespace Fault

/-- The wording of a fault. -/
def message : Fault → Text
  | badLine origin line text =>
    origin ++ ':' :: Nat.toDigits 10 line ++ ": unrecognized line: ".toList ++ Text.quoted text
  | refused reason => "invalid parameter: ".toList ++ reason.message
  | unreadable sect key value kind =>
    "cannot read [".toList ++ sect.getD [] ++ "] ".toList ++ key ++ " = ".toList ++
      Text.quoted value ++ " as ".toList ++ kind.name
  | alreadyLoaded origin =>
    "document already loaded from ".toList ++ origin ++ "; use merge to add more data".toList
  | inaccessible path cause => "cannot access ".toList ++ path ++ ": ".toList ++ cause.message
  | unfetched address reason => "cannot fetch ".toList ++ address ++ ": ".toList ++ reason

/-- The number of the line that is at fault. -/
def line? : Fault → Option Nat
  | badLine _ line _ => some line
  | _ => none

/-- The wording of a fault and of what lies behind it, outermost first. -/
def chain : Fault → List Text
  | inaccessible path cause => [message (inaccessible path cause), cause.message]
  | fault => [fault.message]

end Fault

end IniKeeper
