import IniKeeper.Entry
import IniKeeper.Roster

/-!
# Sections

A section is an ordered list of entries with distinct keys, a comment of its own, and a name unless
it is the global section.
-/

namespace IniKeeper

/-- A block of entries under one header, or before any header. -/
structure Section where
  /-- The name in the header; the global section has none. -/
  name : Option Text
  /-- The comment block above the header. -/
  comment : Option Text
  /-- The entries, in order. -/
  entries : List Entry
  deriving Repr, DecidableEq

namespace Section

/-- A section without entries. -/
def new (name : Option Text) (comment : Option Text) : Section := ⟨name, comment, []⟩

/-- The section for keys that no header precedes. -/
def global : Section := new none none

/-- The entry of a key. -/
def get? (sect : Section) (key : Text) : Option Entry := Roster.get? Entry.key key sect.entries

/-- Change the entry of a key where it stands, or append it; the change starts from a bare entry. -/
def change (sect : Section) (key : Text) (edit : Entry → Entry) : Section :=
  { sect with entries := Roster.upsert Entry.key key (Entry.new key) edit sect.entries }

/-- Put an entry where the entry of its key stands, or at the end. -/
def put (sect : Section) (entry : Entry) : Section := sect.change entry.key fun _ => entry

/-- The section without the entry of a key. -/
def erase (sect : Section) (key : Text) : Section :=
  { sect with entries := Roster.erase Entry.key key sect.entries }

/-- How many entries are settings. -/
def keyCount (sect : Section) : Nat := sect.entries.countP fun entry => !entry.isStandalone

/-- How messages name a section. -/
def label : Option Text → Text
  | some name => ['['] ++ name ++ [']']
  | none => "(global)".toList

end Section

end IniKeeper
