import IniKeeper.Proofs.Interpretation
import IniKeeper.Proofs.Rosters

/-!
# Parts of a document

A document can be read part by part: the names of its sections, the comment of a section, the keys
of its settings, the comment blocks that stand in it, and the entry of a key. A statement changes
few of these parts, and what it makes of a part depends on that part alone. This module says what
each part is after one statement.
-/

namespace IniKeeper

open Guard (StoredKey)

/-! ### The parts -/

namespace Entry

/-- Whether a key is one of those made up for comment blocks: it begins with a marker. -/
def isReserved (key : Text) : Bool := (key.head?.map Line.isMarker).getD false

/-- An entry is a standalone comment when its key is a made-up one. -/
theorem isStandalone_eq (entry : Entry) : entry.isStandalone = isReserved entry.key := by
  unfold isStandalone isReserved
  cases entry.key <;> rfl

/-- A key that may be stored is none of those made up for comment blocks. -/
theorem isReserved_of_storedKey {key : Text} (stored : StoredKey key) : isReserved key = false := by
  have plain : (new key).isStandalone = false := isStandalone_of_storedKey stored
  exact (isStandalone_eq (new key)) ▸ plain

end Entry

namespace Document

/-- The section that is stored under a name. -/
def stored? (document : Document) (home : Option Text) : Option Section :=
  Roster.get? Section.name home document.sections

/-- The comment of a section. -/
def commentAt? (document : Document) (home : Option Text) : Option Text :=
  (document.stored? home).bind Section.comment

/-- The entries of a section, none where it is missing. -/
def entriesAt (document : Document) (home : Option Text) : List Entry :=
  ((document.stored? home).map Section.entries).getD []

/-- The entry that is stored under a key. -/
def entryAt? (document : Document) (home : Option Text) (key : Text) : Option Entry :=
  Roster.get? Entry.key key (document.entriesAt home)

/-- The keys of the settings of a section, in order. -/
def keysAt (document : Document) (home : Option Text) : List Text :=
  ((document.entriesAt home).map Entry.key).filter fun key => !Entry.isReserved key

/-- The comment blocks of their own in a section, in order. -/
def notesAt (document : Document) (home : Option Text) : List Entry :=
  (document.entriesAt home).filter fun entry => Entry.isReserved entry.key

/-- A section is looked up under its trimmed name. -/
theorem section?_eq (document : Document) (sect : Option Text) :
    document.section? sect = document.stored? (address sect) :=
  rfl

/-- The comment of a section is looked up under its trimmed name. -/
theorem sectionComment?_eq (document : Document) (sect : Option Text) :
    document.sectionComment? sect = document.commentAt? (address sect) :=
  rfl

/-- An entry is looked up under its trimmed key in the section of the trimmed name. -/
theorem entry?_eq (document : Document) (sect : Option Text) (key : Text) :
    document.entry? sect key = document.entryAt? (address sect) (Text.trim key) := by
  unfold entry? entryAt? entriesAt
  rw [section?_eq]
  cases document.stored? (address sect) <;> rfl

/-! ### What a change of one section does -/

section Amend

variable {document : Document} {home : Option Text} {edit : Section → Section}

/-- A change of a section changes the section of its name, which is bare where it is new. -/
theorem stored?_amend_self (kept : ∀ sect, sect.name = home → (edit sect).name = home) :
    (document.amend home edit).stored? home =
      some (edit ((document.stored? home).getD (Section.new home none))) :=
  Roster.get?_upsert_self _ _ _ _ _ (kept (Section.new home none) rfl) fun sect _ => kept sect

/-- A change of a section leaves the others. -/
theorem stored?_amend_other {other : Option Text}
    (kept : ∀ sect, sect.name = home → (edit sect).name = home) (different : home ≠ other) :
    (document.amend home edit).stored? other = document.stored? other :=
  Roster.get?_upsert_other _ _ _ _ _ _ different.symm (kept (Section.new home none) rfl)
    fun sect _ => kept sect

/-- The entries after a change of one section: only those of that section differ. -/
theorem entriesAt_amend {change : List Entry → List Entry}
    (kept : ∀ sect, sect.name = home → (edit sect).name = home)
    (entries : ∀ sect, (edit sect).entries = change sect.entries) (other : Option Text) :
    (document.amend home edit).entriesAt other =
      if home = other then change (document.entriesAt other) else document.entriesAt other := by
  unfold entriesAt
  by_cases same : home = other
  · subst same
    rw [if_pos rfl, stored?_amend_self kept]
    cases document.stored? home with
    | none => exact entries (Section.new home none)
    | some found => exact entries found
  · rw [if_neg same, stored?_amend_other kept same]

/-- The comments after a change of one section: only that of that section differs. -/
theorem commentAt?_amend {change : Option Text → Option Text}
    (kept : ∀ sect, sect.name = home → (edit sect).name = home)
    (comments : ∀ sect, (edit sect).comment = change sect.comment) (other : Option Text) :
    (document.amend home edit).commentAt? other =
      if home = other then change (document.commentAt? other) else document.commentAt? other := by
  unfold commentAt?
  by_cases same : home = other
  · subst same
    rw [if_pos rfl, stored?_amend_self kept]
    cases document.stored? home with
    | none => exact comments (Section.new home none)
    | some found => exact comments found
  · rw [if_neg same, stored?_amend_other kept same]

/-- A change of the entry of a key changes the entries of its section there and no others. -/
theorem entriesAt_amend_change (key : Text) (change : Entry → Entry) (other : Option Text) :
    (document.amend home fun sect => sect.change key change).entriesAt other =
      if home = other then
        Roster.upsert Entry.key key (Entry.new key) change (document.entriesAt other)
      else document.entriesAt other :=
  @entriesAt_amend document home (fun sect => sect.change key change)
    (Roster.upsert Entry.key key (Entry.new key) change) (fun _ named => named) (fun _ => rfl) other

/-- A change of the entry of a key keeps the comment of every section. -/
theorem commentAt?_amend_change (key : Text) (change : Entry → Entry) (other : Option Text) :
    (document.amend home fun sect => sect.change key change).commentAt? other =
      document.commentAt? other := by
  have changed := @commentAt?_amend document home (fun sect => sect.change key change) id
    (fun _ named => named) (fun _ => rfl) other
  rw [changed]
  exact ite_self _

/-- A change of the comment of a section keeps the entries of all. -/
theorem entriesAt_amend_comment (change : Option Text → Option Text) (other : Option Text) :
    (document.amend home fun sect => { sect with comment := change sect.comment }).entriesAt
        other =
      document.entriesAt other := by
  have changed := @entriesAt_amend document home
    (fun sect => { sect with comment := change sect.comment }) id
    (fun _ named => named) (fun _ => rfl) other
  rw [changed]
  exact ite_self _

/-- A change of the comment of a section changes that one and no others. -/
theorem commentAt?_amend_comment (change : Option Text → Option Text) (other : Option Text) :
    (document.amend home fun sect => { sect with comment := change sect.comment }).commentAt?
        other =
      if home = other then change (document.commentAt? other) else document.commentAt? other :=
  @commentAt?_amend document home (fun sect => { sect with comment := change sect.comment })
    change (fun _ named => named) (fun _ => rfl) other

/-- A change of the entry of a key adds that key to those of the settings unless it is made up. -/
theorem keysAt_amend_change {key : Text} {change : Entry → Entry}
    (keyed : ∀ entry, entry.key = key → (change entry).key = key) (other : Option Text) :
    (document.amend home fun sect => sect.change key change).keysAt other =
      if home = other ∧ Entry.isReserved key = false then
        Roster.enroll key (document.keysAt other)
      else document.keysAt other := by
  have names : ∀ entries, (Roster.upsert Entry.key key (Entry.new key) change entries).map
      Entry.key = Roster.enroll key (entries.map Entry.key) := fun entries =>
    Roster.names_upsert Entry.key key (Entry.new key) change entries (keyed _ rfl)
      fun entry _ => keyed entry
  unfold keysAt
  rw [entriesAt_amend_change]
  by_cases same : home = other
  · cases reserved : Entry.isReserved key with
    | true => simp [same, names, Roster.filter_enroll, reserved]
    | false => simp [same, names, Roster.filter_enroll, reserved]
  · simp [same]

end Amend

end Document

/-! ### What a statement does to a part -/

namespace Statement

/-- Whether a statement keeps to the keys of its kind: a setting to those that are not made up, a
comment block to those that are. -/
def Apart : Statement → Prop
  | header _ _ => True
  | setting _ key _ _ => Entry.isReserved key = false
  | note _ block line => Entry.isReserved (Entry.standalone block line).key = true

/-- The key that a statement sets in a section. -/
def key? (home : Option Text) : Statement → Option Text
  | setting sect key _ _ => if sect = home then some key else none
  | _ => none

/-- The entry of a key after a statement, from the entry before. -/
def define (home : Option Text) (key : Text) (before : Option Entry) : Statement → Option Entry
  | setting sect found value comment =>
    if sect = home ∧ found = key then
      let entry := before.getD (Entry.new key)
      some { entry with value := some value, comment := comment.or entry.comment }
    else before
  | header _ _ | note _ _ _ => before

end Statement

namespace Document

variable {document : Document} {said : Statement}

/-- The comment of a named section after a statement: that given with its header, if one is. -/
theorem commentAt?_accept (document : Document) (said : Statement) (name : Text) :
    (document.accept said).commentAt? (some name) =
      (said.headerComment? name).or (document.commentAt? (some name)) := by
  cases said with
  | header found comment =>
    rw [accept, commentAt?_amend_comment, Statement.headerComment?]
    by_cases same : found = name
    · rw [if_pos (congrArg some same), if_pos same]
    · rw [if_neg fun wrong => same (Option.some.inj wrong), if_neg same, Option.none_or]
  | setting sect key value comment =>
    rw [accept, commentAt?_amend_change]
    rfl
  | note sect block line =>
    rw [accept]
    split
    · rw [commentAt?_amend_comment (fun _ => some block), if_neg (by simp)]
      rfl
    · exact commentAt?_amend_change _ _ _

/-- A header changes no entries. -/
theorem entriesAt_accept_header (document : Document) (name : Text) (comment : Option Text)
    (home : Option Text) :
    (document.accept (.header name comment)).entriesAt home = document.entriesAt home :=
  entriesAt_amend_comment comment.or home

/-- The keys of a section after a statement: that of a setting is among them. -/
theorem keysAt_accept (apart : said.Apart) (home : Option Text) :
    (document.accept said).keysAt home =
      (said.key? home).elim (document.keysAt home) (Roster.enroll · (document.keysAt home)) := by
  cases said with
  | header name comment =>
    rw [keysAt, entriesAt_accept_header]
    rfl
  | setting sect key value comment =>
    have unreserved : Entry.isReserved key = false := apart
    rw [accept, keysAt_amend_change, Statement.key?]
    · by_cases same : sect = home
      · rw [if_pos ⟨same, unreserved⟩, if_pos same]
        rfl
      · rw [if_neg fun both => same both.1, if_neg same]
        rfl
    · exact fun _ same => same
  | note sect block line =>
    have reserved : Entry.isReserved (Entry.standalone block line).key = true := apart
    rw [accept]
    split
    · rw [keysAt, entriesAt_amend_comment fun _ => some block]
      rfl
    · unfold Section.put
      rw [keysAt_amend_change, reserved]
      · simp [Statement.key?]
      · exact fun _ _ => rfl

/-- The entry of a setting after a statement depends on the entry before. -/
theorem entryAt?_accept (apart : said.Apart) (home : Option Text) {key : Text}
    (unreserved : Entry.isReserved key = false) :
    (document.accept said).entryAt? home key =
      said.define home key (document.entryAt? home key) := by
  unfold entryAt?
  cases said with
  | header name comment =>
    rw [entriesAt_accept_header]
    rfl
  | setting sect found value comment =>
    rw [accept, entriesAt_amend_change, Statement.define]
    by_cases same : sect = home
    · rw [if_pos same]
      by_cases here : found = key
      · subst here
        rw [if_pos ⟨same, rfl⟩]
        exact Roster.get?_upsert_self _ _ _ _ _ rfl fun _ _ named => named
      · rw [if_neg fun both => here both.2]
        exact Roster.get?_upsert_other _ _ _ _ _ _ (Ne.symm here) rfl fun _ _ named => named
    · rw [if_neg same, if_neg fun both => same both.1]
  | note sect block line =>
    rw [accept, Statement.define]
    split
    · rw [entriesAt_amend_comment fun _ => some block]
    · unfold Section.put
      rw [entriesAt_amend_change]
      split
      · have different : key ≠ (Entry.standalone block line).key := by
          intro same
          rw [same, apart] at unreserved
          contradiction
        exact Roster.get?_upsert_other _ _ _ _ _ _ different rfl fun _ _ _ => rfl
      · rfl

end Document

/-! ### What a text states keeps apart -/

namespace Rows

/-- A line of a text is well formed, and so is the blank line that stands for its end. -/
theorem wellFormed_whole {rows : List Text} (wellFormed : ∀ row ∈ rows, Line.WellFormed row) :
    ∀ row ∈ rows ++ [[]], Line.WellFormed row := by
  intro row member
  rcases List.mem_append.mp member with inside | last
  · exact wellFormed row inside
  · exact .blank (List.mem_singleton.mp last ▸ Text.allBlank_nil)

/-- No line of a text holds a line feed. -/
theorem clean_whole (content : Text) : ∀ row ∈ Text.lines content ++ [[]], '\n' ∉ row := by
  intro row member
  rcases List.mem_append.mp member with inside | last
  · exact Text.not_mem_of_mem_lines inside
  · exact List.mem_singleton.mp last ▸ List.not_mem_nil

/-- Settings and comment blocks that well-formed lines state keep to the keys of their kind. -/
theorem apart_of_mem_statements {rows : List Text} (clean : ∀ row ∈ rows, '\n' ∉ row)
    (wellFormed : ∀ row ∈ rows, Line.WellFormed row) {said : Statement}
    (member : said ∈ statements rows) : said.Apart := by
  have stored := stored_statements clean wellFormed said member said.sect
  cases said with
  | header name comment => exact trivial
  | setting sect key value comment =>
    exact Entry.isReserved_of_storedKey (stored (.key key) (if_pos rfl))
  | note sect block line =>
    have valid := (stored (.note block line) (if_pos rfl)).1
    have standalone := Entry.isStandalone_standalone block line valid
    rw [Entry.isStandalone_eq] at standalone
    exact standalone

end Rows

end IniKeeper
