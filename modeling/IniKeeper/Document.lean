import IniKeeper.Fault
import IniKeeper.Guard
import IniKeeper.Section

/-!
# Documents

A document is an ordered list of sections that begins with the global section. Sections and keys
are addressed by name, trimmed before they are compared; no section name addresses the global
section, which is always there. Every write is guarded and gives a new document or the reason why
not, so a refused write leaves the document as it was.
-/

namespace IniKeeper

/-- Ordered sections, the global one first. -/
structure Document where
  /-- The sections, in order. -/
  sections : List Section
  deriving Repr, DecidableEq

namespace Document

/-- The document with nothing in it. -/
def empty : Document := ⟨[Section.global]⟩

/-! ### Looking up -/

/-- The name that a section is stored under. -/
def address (sect : Option Text) : Option Text := sect.map Text.trim

/-- The section of a name. -/
def section? (document : Document) (sect : Option Text) : Option Section :=
  Roster.get? Section.name (address sect) document.sections

/-- The entry of a key in a section. -/
def entry? (document : Document) (sect : Option Text) (key : Text) : Option Entry := do
  (← document.section? sect).get? (Text.trim key)

/-- Whether there is a section of a name. -/
def hasSection (document : Document) (sect : Option Text) : Bool :=
  (document.section? sect).isSome

/-- Whether there is an entry of a key. -/
def hasKey (document : Document) (sect : Option Text) (key : Text) : Bool :=
  (document.entry? sect key).isSome

/-- The stored value of a key. -/
def value? (document : Document) (sect : Option Text) (key : Text) : Option Text := do
  (← document.entry? sect key).value

/-- The comment of a key. -/
def comment? (document : Document) (sect : Option Text) (key : Text) : Option Text := do
  (← document.entry? sect key).comment

/-- The comment of a section. -/
def sectionComment? (document : Document) (sect : Option Text) : Option Text := do
  (← document.section? sect).comment

/-- The names of the sections, in order. -/
def sectionNames (document : Document) : List (Option Text) := document.sections.map Section.name

/-- How many sections have a name. -/
def namedCount (document : Document) : Nat := document.sections.length - 1

/-- How many settings there are in all sections. -/
def keyCount (document : Document) : Nat :=
  document.sections.foldr (fun sect count => sect.keyCount + count) 0

/-- Whether there is nothing but the global section, without entries and comment. -/
def isEmpty (document : Document) : Bool :=
  match document.sections with
  | [only] => only.entries.isEmpty && only.comment.isNone
  | _ => false

/-! ### Sections -/

/-- The name under which a section may be changed: any that is there, or one that may be added. -/
def nameFor (document : Document) (sect : Option Text) : Except Refusal (Option Text) :=
  if document.hasSection sect then .ok (address sect)
  else (Guard.sectionName (sect.getD [])).map some

/-- Change a section where it stands, or append it; the change starts from a bare section. -/
def change (document : Document) (sect : Option Text) (edit : Section → Section) :
    Except Refusal Document := do
  let name ← document.nameFor sect
  .ok ⟨Roster.upsert Section.name name (Section.new name none) edit document.sections⟩

/-- Give a section a comment, or none, and add the section if it is missing. -/
def ensureSection (document : Document) (sect : Option Text) (comment : Option Text) :
    Except Refusal Document := do
  Guard.comment comment
  document.change sect fun found => { found with comment := comment }

/-- Remove a named section and give it; the global section stays. -/
def removeSection (document : Document) (sect : Option Text) : Option (Section × Document) := do
  let removed ← document.section? (some (← sect))
  some (removed, ⟨Roster.erase Section.name (address sect) document.sections⟩)

/-! ### Values and comments -/

/-- Change the entry of a key, or append it to its section; a missing section is added. -/
def changeEntry (document : Document) (sect : Option Text) (key : Text) (edit : Entry → Entry) :
    Except Refusal Document :=
  document.change sect fun found => found.change key edit

/-- Set a value and keep the comment; give the value before. -/
def setString (document : Document) (sect : Option Text) (key value : Text) :
    Except Refusal (Document × Option Text) := do
  let (key, value) ← Guard.entry key value
  let changed ← document.changeEntry sect key fun entry => { entry with value := some value }
  .ok (changed, document.value? sect key)

/-- Set a value and replace the comment; give the value before. -/
def setStringWithComment (document : Document) (sect : Option Text) (key value : Text)
    (comment : Option Text) : Except Refusal (Document × Option Text) := do
  Guard.comment comment
  let (key, value) ← Guard.entry key value
  let changed ← document.changeEntry sect key fun entry =>
    { entry with value := some value, comment := comment }
  .ok (changed, document.value? sect key)

/-- Replace the comment of a key, which is added with an empty value if missing; give the comment
before. -/
def setComment (document : Document) (sect : Option Text) (key : Text) (comment : Option Text) :
    Except Refusal (Document × Option Text) := do
  Guard.comment comment
  let (key, _) ← Guard.entry key []
  let changed ← document.changeEntry sect key fun entry =>
    { entry with value := some entry.valueText, comment := comment }
  .ok (changed, document.comment? sect key)

/-- The value of a key, or a default where there is none. -/
def getString (document : Document) (sect : Option Text) (key default : Text) : Text :=
  (document.value? sect key).getD default

/-- Remove the entry of a key and give it. -/
def removeKey (document : Document) (sect : Option Text) (key : Text) :
    Option (Entry × Document) := do
  let removed ← document.entry? sect key
  let erase (found : Section) : Section := found.erase (Text.trim key)
  some (removed, ⟨Roster.upsert Section.name (address sect) Section.global erase
                    document.sections⟩)

/-- Store a comment block that belongs to no key, found at a line. -/
def addStandalone (document : Document) (sect : Option Text) (block : Text) (line : Nat) :
    Except Refusal Document :=
  document.change sect fun found => found.put (Entry.standalone block line)

/-! ### Typed values -/

/-- The stored text of a key as a value of a type. -/
def readStored {α : Type} [Storable α] (sect : Option Text) (key value : Text) : Except Fault α :=
  match Storable.read? value with
  | some found => .ok found
  | none =>
    .error (.unreadable (address sect) (Text.trim key) value (Storable.kind (α := α)))

/-- The value of a key as a value of a type, if the key has one. -/
def previous? {α : Type} [Storable α] (document : Document) (sect : Option Text) (key : Text) :
    Except Fault (Option α) :=
  match document.value? sect key with
  | some value => (readStored sect key value).map some
  | none => .ok none

/-- The value of a key as a value of a type, or a default where there is none. -/
def getAs {α : Type} [Storable α] (document : Document) (sect : Option Text) (key : Text)
    (default : α) : Except Fault α := do
  .ok ((← document.previous? sect key).getD default)

/-- A refused write as a fault. -/
def refuse {α : Type} (attempt : Except Refusal α) : Except Fault α :=
  attempt.mapError Fault.refused

/-- Set a value of a type and keep the comment; give the value before, which must be of the type. -/
def setAs {α : Type} [Storable α] (document : Document) (sect : Option Text) (key : Text)
    (value : α) : Except Fault (Document × Option α) := do
  let _ ← refuse (Guard.key key)
  let previous ← document.previous? sect key
  let (changed, _) ← refuse (document.setString sect key (Storable.write value))
  .ok (changed, previous)

/-- Set a value of a type and replace the comment; give the value before, which must be of the
type. -/
def setAsWithComment {α : Type} [Storable α] (document : Document) (sect : Option Text)
    (key : Text) (value : α) (comment : Option Text) : Except Fault (Document × Option α) := do
  refuse (Guard.comment comment)
  let _ ← refuse (Guard.key key)
  let previous ← document.previous? sect key
  let (changed, _) ← refuse (document.setStringWithComment sect key (Storable.write value) comment)
  .ok (changed, previous)

end Document

end IniKeeper
