import IniKeeper.Section

/-!
# Reports

A report sums up one text that was read: how many lines, headers and settings it has, and what in
it defines something a second time.
-/

namespace IniKeeper

/-- What a warning points at. -/
inductive Finding where
  /-- A header whose name an earlier header of the text has. -/
  | sectionAgain (name : Text)
  /-- A setting whose key was set in the same section earlier in the text. -/
  | keyAgain (sect : Option Text) (key : Text)
  deriving Repr, DecidableEq

/-- How a finding names a section. -/
def Finding.place : Option Text → Text
  | some name => Section.label (some name)
  | none => "the global section".toList

/-- The wording of a finding. -/
def Finding.message : Finding → Text
  | sectionAgain name => "section [".toList ++ name ++ "] defined more than once".toList
  | keyAgain sect key =>
    "key '".toList ++ key ++ "' in ".toList ++ place sect ++
      " defined more than once; last value wins".toList

/-- A finding with its line. -/
structure Warning where
  /-- The number of the line, from one. -/
  line : Nat
  /-- What was found. -/
  finding : Finding
  /-- The line as written. -/
  raw : Text
  deriving Repr, DecidableEq

/-- The wording of a warning. -/
def Warning.message (warning : Warning) : Text := warning.finding.message

/-- What reading a text found. -/
structure Report where
  /-- Lines read. -/
  lines : Nat
  /-- Headers among them. -/
  sections : Nat
  /-- Settings among them. -/
  keys : Nat
  /-- Repeated definitions, in line order. -/
  warnings : List Warning
  deriving Repr, DecidableEq

/-- The report of nothing read yet. -/
def Report.empty : Report := ⟨0, 0, 0, []⟩

end IniKeeper
