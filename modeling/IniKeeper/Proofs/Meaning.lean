import IniKeeper.Proofs.Acceptance
import IniKeeper.Proofs.Occurrences

/-!
# The document that a text describes

What a text states can be read as a document without going through it line by line: sections stand
in the order of their first headers and entries in the order in which they first come up; a value
is that of the last definition, and a comment is the last one given. A comment block that belongs
to no key is an entry of its own, unless it is the first thing that the text states. This module
proves that accepting one more statement gives the document described with it.
-/

namespace IniKeeper

open Guard (StoredKey)
open Occurrences (firsts last)

/-! ### What a statement gives -/

/-- What stands in a section: a key, or a comment block of its own with the number of the line that
settles it. -/
inductive Slot where
  /-- A key. -/
  | key (key : Text)
  /-- A comment block and a line. -/
  | note (block : Text) (line : Nat)
  deriving Repr, DecidableEq

/-- The key of the entry in a slot. -/
def Slot.name : Slot → Text
  | .key name => name
  | .note block line => (Entry.standalone block line).key

namespace Slot

/-- What a well-formed line can put into a section, no later than at a line. -/
def Stored (bound : Nat) : Slot → Prop
  | .key name => StoredKey name
  | .note block line => Comment.isBlock block = true ∧ line ≤ bound

/-- What is stored no later than at a line is stored no later than at one below it. -/
theorem Stored.mono {slot : Slot} {early late : Nat} (stored : slot.Stored early)
    (order : early ≤ late) : slot.Stored late := by
  cases slot with
  | key name => exact stored
  | note block line => exact ⟨stored.1, Nat.le_trans stored.2 order⟩

/-- A key shares its name with no comment block. -/
theorem name_note_ne {block name : Text} {line : Nat} (valid : Comment.isBlock block = true)
    (stored : StoredKey name) : (Slot.note block line).name ≠ name := by
  intro same
  have key : StoredKey (Entry.standalone block line).key := by
    change StoredKey (Slot.note block line).name
    rw [same]
    exact stored
  have setting := Entry.isStandalone_of_storedKey key
  rw [Entry.isStandalone_standalone block line valid] at setting
  contradiction

/-- Comment blocks at different lines have different names. -/
theorem name_note_inj {block other : Text} {line found : Nat}
    (same : (Slot.note block line).name = (Slot.note other found).name) : line = found :=
  Entry.line_eq_of_toDigits (List.cons.inj same).2

end Slot

namespace Statement

/-- The name in a header. -/
def header? : Statement → Option Text
  | header name _ => some name
  | _ => none

/-- The comment that is given with a header of a name. -/
def headerComment? (name : Text) : Statement → Option Text
  | header found comment => if found = name then comment else none
  | _ => none

/-- What a statement puts into a section. -/
def slot? (home : Option Text) : Statement → Option Slot
  | header _ _ => none
  | setting sect key _ _ => if sect = home then some (.key key) else none
  | note sect block line => if sect = home then some (.note block line) else none

/-- The value that a statement gives a key of a section. -/
def value? (home : Option Text) (key : Text) : Statement → Option Text
  | setting sect found value _ => if sect = home ∧ found = key then some value else none
  | _ => none

/-- The comment that a statement gives a key of a section. -/
def comment? (home : Option Text) (key : Text) : Statement → Option Text
  | setting sect found _ comment => if sect = home ∧ found = key then comment else none
  | _ => none

/-- The entry of its own that a statement puts into a section. -/
def note? (home : Option Text) : Statement → Option Entry
  | note sect block line => if sect = home then some (Entry.standalone block line) else none
  | _ => none

/-- The line at which a comment block of its own is settled. -/
def line? : Statement → Option Nat
  | note _ _ line => some line
  | _ => none

/-- A statement puts something into its own section only. -/
theorem sect_of_slot? {said : Statement} {home : Option Text} {slot : Slot}
    (gives : said.slot? home = some slot) : said.sect = home := by
  cases said with
  | header name comment => simp [slot?] at gives
  | setting sect key value comment => exact (Option.ite_none_right_eq_some.mp gives).1
  | note sect block line => exact (Option.ite_none_right_eq_some.mp gives).1

end Statement

/-! ### The described document -/

namespace Meaning

/-- The comment block that some statements begin with. -/
def top? : List Statement → Option Text
  | .note _ block _ :: _ => some block
  | _ => none

/-- Statements without the comment block that they begin with. -/
def body : List Statement → List Statement
  | .note _ _ _ :: rest => rest
  | said => said

/-- The names of the sections: the global one, and the others in the order of first headers. -/
def names (said : List Statement) : List (Option Text) :=
  none :: (firsts Statement.header? said).map some

/-- The comment of a section: the last one given with its headers, or what begins the text. -/
def sectionComment? (said : List Statement) : Option Text → Option Text
  | none => top? said
  | some name => last (Statement.headerComment? name) said

/-- The entry in a place of a section: a key has the value of its last definition and the last
comment given with one, and a comment block has itself. -/
def entry (said : List Statement) (home : Option Text) : Slot → Entry
  | .key key =>
    ⟨key, last (Statement.value? home key) said, last (Statement.comment? home key) said⟩
  | .note block line => Entry.standalone block line

/-- The entries of a section, in the order in which they first come up. -/
def entries (said : List Statement) (home : Option Text) : List Entry :=
  (firsts (Statement.slot? home) said).map (entry said home)

/-- A section. -/
def sect (said : List Statement) (home : Option Text) : Section :=
  ⟨home, sectionComment? said home, entries (body said) home⟩

/-- The document that some statements describe. -/
def document (said : List Statement) : Document := ⟨(names said).map (sect said)⟩

/-! ### One more statement -/

variable {said : List Statement} {more : Statement} {home : Option Text}

/-- A header enrolls its name behind the global section. -/
theorem names_header (said : List Statement) (name : Text) (comment : Option Text) :
    names (said ++ [.header name comment]) = Roster.enroll (some name) (names said) := by
  have gives : (Statement.header name comment).header? = some name := rfl
  rw [names, Occurrences.firsts_concat_of_eq_some gives, names]
  by_cases present : name ∈ firsts Statement.header? said
  · rw [Roster.enroll_of_mem present, Roster.enroll_of_mem (by simpa using present)]
  · rw [Roster.enroll_of_not_mem present, Roster.enroll_of_not_mem (by simpa using present)]
    simp

/-- A statement enrolls the name of its section, if no other than a header opens one. -/
theorem names_concat (placed : more.header? = none → more.sect ∈ names said) :
    names (said ++ [more]) = Roster.enroll more.sect (names said) := by
  cases more with
  | header name comment => exact names_header said name comment
  | setting sect key value comment =>
    rw [Roster.enroll_of_mem (placed rfl), names, Occurrences.firsts_concat_of_eq_none rfl, names]
  | note sect block line =>
    rw [Roster.enroll_of_mem (placed rfl), names, Occurrences.firsts_concat_of_eq_none rfl, names]

/-- No name of a section stands twice. -/
theorem nodup_names (said : List Statement) : (names said).Nodup := by
  rw [names, List.nodup_cons]
  exact ⟨by simp,
    List.Nodup.map (fun _ _ same => Option.some.inj same) (Occurrences.nodup_firsts _ _)⟩

/-- What comes behind the first comment block is stated. -/
theorem body_sublist (said : List Statement) : (body said).Sublist said := by
  cases said with
  | nil => exact List.Sublist.refl _
  | cons first rest =>
    cases first with
    | note sect block line => exact List.sublist_cons_self _ _
    | header name comment => exact List.Sublist.refl _
    | setting sect key value comment => exact List.Sublist.refl _

/-- What comes behind the first comment block is stated. -/
theorem mem_of_mem_body {one : Statement} (member : one ∈ body said) : one ∈ said :=
  (body_sublist said).subset member

/-- Whether a statement is no comment block that the statements begin with. -/
def Late (said : List Statement) (more : Statement) : Prop :=
  said = [] → ∀ sect block line, more ≠ .note sect block line

/-- A late statement leaves what the statements begin with as it is. -/
theorem Late.top?_concat (late : Late said more) : top? (said ++ [more]) = top? said := by
  cases said with
  | nil =>
    cases more with
    | note sect block line => exact absurd rfl (late rfl sect block line)
    | header name comment => rfl
    | setting sect key value comment => rfl
  | cons first rest => cases first <;> rfl

/-- A late statement comes behind the others. -/
theorem Late.body_concat (late : Late said more) : body (said ++ [more]) = body said ++ [more] := by
  cases said with
  | nil =>
    cases more with
    | note sect block line => exact absurd rfl (late rfl sect block line)
    | header name comment => rfl
    | setting sect key value comment => rfl
  | cons first rest => cases first <;> rfl

/-- What a statement leaves unsaid about a slot stays as it was. -/
theorem entry_concat {slot : Slot} (unsaid : ∀ key, slot = .key key →
      more.value? home key = none ∧ more.comment? home key = none) :
    entry (said ++ [more]) home slot = entry said home slot := by
  cases slot with
  | note block line => rfl
  | key key =>
    obtain ⟨noValue, noComment⟩ := unsaid key rfl
    simp only [entry, Occurrences.last_concat, noValue, noComment, Option.none_or]

/-- A statement leaves the entries of other sections as they were. -/
theorem entries_of_ne (other : home ≠ more.sect) :
    entries (said ++ [more]) home = entries said home := by
  have silent : more.slot? home = none := by
    cases more with
    | header name comment => rfl
    | setting sect key value comment => exact if_neg fun same => other same.symm
    | note sect block line => exact if_neg fun same => other same.symm
  have unsaid : ∀ key, more.value? home key = none ∧ more.comment? home key = none := by
    intro key
    cases more with
    | header name comment => exact ⟨rfl, rfl⟩
    | setting sect found value comment =>
      exact ⟨if_neg fun same => other same.1.symm, if_neg fun same => other same.1.symm⟩
    | note sect block line => exact ⟨rfl, rfl⟩
  rw [entries, entries, Occurrences.firsts_concat_of_eq_none silent]
  exact List.map_congr_left fun slot _ => entry_concat fun key _ => unsaid key

/-- A statement leaves other sections as they were. -/
theorem sect_of_ne (late : Late said more) (other : home ≠ more.sect) :
    sect (said ++ [more]) home = sect said home := by
  have comment : sectionComment? (said ++ [more]) home = sectionComment? said home := by
    cases home with
    | none => exact late.top?_concat
    | some name =>
      have silent : more.headerComment? name = none := by
        cases more with
        | header found comment => exact if_neg fun same => other (congrArg some same.symm)
        | setting sect key value comment => rfl
        | note sect block line => rfl
      simp only [sectionComment?, Occurrences.last_concat, silent, Option.none_or]
  rw [sect, comment, late.body_concat, entries_of_ne other, sect]

/-- A section that nothing was stated about is bare. -/
theorem sect_of_not_mem (placed : ∀ one ∈ said, one.sect ∈ names said)
    (absent : home ∉ names said) : sect said home = Section.new home none := by
  have others : ∀ one ∈ said, one.sect ≠ home := fun one member same =>
    absent (same ▸ placed one member)
  have comment : sectionComment? said home = none := by
    cases home with
    | none => exact absurd List.mem_cons_self absent
    | some name =>
      refine Occurrences.last_of_forall_eq_none fun one member => ?_
      cases one with
      | header found comment =>
        exact if_neg fun same => others _ member (congrArg some same)
      | setting sect key value comment => rfl
      | note sect block line => rfl
  have none : firsts (Statement.slot? home) (body said) = [] := by
    refine List.eq_nil_iff_forall_not_mem.mpr fun slot member => ?_
    obtain ⟨one, inside, gives⟩ := Occurrences.mem_firsts.mp member
    have there : one ∈ said := mem_of_mem_body inside
    exact others one there (Statement.sect_of_slot? gives)
  rw [sect, comment, entries, none, List.map_nil, Section.new]

/-! ### Accepting one more statement -/

/-- An edit of one section gives the described document when it gives that section. -/
theorem amend_document {edit : Section → Section} (late : Late said more)
    (placed : ∀ one ∈ said, one.sect ∈ names said)
    (opened : more.header? = none → more.sect ∈ names said)
    (edited : edit (sect said more.sect) = sect (said ++ [more]) more.sect) :
    (document said).amend more.sect edit = document (said ++ [more]) := by
  have upserted : Roster.upsert Section.name more.sect (Section.new more.sect none) edit
        ((names said).map (sect said)) =
      (Roster.enroll more.sect (names said)).map (sect (said ++ [more])) := by
    refine Roster.upsert_map Section.name more.sect (Section.new more.sect none) edit
      (nodup_names said) (fun name _ other => ⟨other, sect_of_ne late other⟩)
      (fun _ => ⟨rfl, edited⟩) fun absent => ?_
    rw [← sect_of_not_mem placed absent, edited]
  rw [← names_concat opened] at upserted
  exact congrArg Document.mk upserted

/-- The key of an entry is the name of its slot. -/
theorem key_entry (said : List Statement) (home : Option Text) (slot : Slot) :
    (entry said home slot).key = slot.name := by
  cases slot <;> rfl

/-- An edit of one entry gives the described entries when it gives that entry. -/
theorem upsert_entries {edit : Entry → Entry} {slot : Slot} (gives : more.slot? home = some slot)
    (apart : ∀ other ∈ firsts (Statement.slot? home) said, other ≠ slot → other.name ≠ slot.name)
    (unsaid : ∀ key, slot ≠ .key key →
      more.value? home key = none ∧ more.comment? home key = none)
    (again : edit (entry said home slot) = entry (said ++ [more]) home slot)
    (fresh : slot ∉ firsts (Statement.slot? home) said →
      edit (Entry.new slot.name) = entry (said ++ [more]) home slot) :
    Roster.upsert Entry.key slot.name (Entry.new slot.name) edit (entries said home) =
      entries (said ++ [more]) home := by
  rw [entries, entries, Occurrences.firsts_concat_of_eq_some gives]
  refine Roster.upsert_map Entry.key slot.name (Entry.new slot.name) edit
    (Occurrences.nodup_firsts _ _) (fun other member different => ⟨?_, ?_⟩)
    (fun _ => ⟨key_entry said home slot, again⟩) fresh
  · rw [key_entry]
    exact apart other member different
  · refine entry_concat fun key same => unsaid key fun also => different ?_
    rw [same, also]

/-- A definition changes the entry of its key. -/
theorem entries_setting {key value : Text} {comment : Option Text}
    (apart : ∀ other ∈ firsts (Statement.slot? home) said, other ≠ .key key → other.name ≠ key) :
    Roster.upsert Entry.key key (Entry.new key)
        (fun found => { found with value := some value, comment := comment.or found.comment })
        (entries said home) =
      entries (said ++ [.setting home key value comment]) home := by
  have gives : (Statement.setting home key value comment).slot? home = some (.key key) :=
    if_pos rfl
  have givesValue : (Statement.setting home key value comment).value? home key = some value :=
    if_pos ⟨rfl, rfl⟩
  have givesComment : (Statement.setting home key value comment).comment? home key = comment :=
    if_pos ⟨rfl, rfl⟩
  have after : entry (said ++ [.setting home key value comment]) home (.key key) =
      ⟨key, some value, comment.or (last (Statement.comment? home key) said)⟩ := by
    simp only [entry, Occurrences.last_concat, givesValue, givesComment, Option.some_or]
  refine upsert_entries gives apart ?_ after.symm fun absent => ?_
  · intro found other
    have different : key ≠ found := fun same => other (congrArg Slot.key same)
    exact ⟨if_neg fun same => different same.2, if_neg fun same => different same.2⟩
  · have silent : last (Statement.comment? home key) said = none := by
      refine Occurrences.last_of_forall_eq_none fun one member => ?_
      cases one with
      | header name comment => rfl
      | note sect block line => rfl
      | setting sect found value comment =>
        refine if_neg fun same => absent (Occurrences.mem_firsts.mpr ⟨_, member, ?_⟩)
        rw [← same.2]
        exact if_pos same.1
    rw [after, silent]
    rfl

/-- A comment block of its own adds its entry. -/
theorem entries_note {block : Text} {line : Nat}
    (apart : ∀ other ∈ firsts (Statement.slot? home) said, other ≠ .note block line →
      other.name ≠ (Slot.note block line).name) :
    Roster.upsert Entry.key (Entry.standalone block line).key
        (Entry.new (Entry.standalone block line).key) (fun _ => Entry.standalone block line)
        (entries said home) =
      entries (said ++ [.note home block line]) home := by
  have gives : (Statement.note home block line).slot? home = some (.note block line) :=
    if_pos rfl
  exact upsert_entries gives apart (fun _ _ => ⟨rfl, rfl⟩) rfl fun _ => rfl

/-- Whether a statement may come next: the others stand in sections that are there, its own section
is the one opened last, and what it puts there shares its name with nothing else. -/
structure Follows (said : List Statement) (more : Statement) : Prop where
  /-- Statements stand in sections that are there. -/
  placed : ∀ one ∈ said, one.sect ∈ names said
  /-- The section was opened last. -/
  opened : more.header? = none → more.sect = last Statement.header? said
  /-- Names are not shared. -/
  apart : ∀ slot, more.slot? more.sect = some slot →
    ∀ other ∈ firsts (Statement.slot? more.sect) (body said), other ≠ slot →
      other.name ≠ slot.name

/-- The section opened last is there. -/
theorem last_header?_mem (said : List Statement) : last Statement.header? said ∈ names said := by
  cases opened : last Statement.header? said with
  | none => exact List.mem_cons_self
  | some name =>
    obtain ⟨one, inside, gives⟩ := List.mem_filterMap.mp (List.mem_of_getLast? opened)
    exact List.mem_cons_of_mem _
      (List.mem_map_of_mem (Occurrences.mem_firsts.mpr ⟨one, inside, gives⟩))

/-- The section of a statement that comes next is there. -/
theorem Follows.mem_names (follows : Follows said more) (other : more.header? = none) :
    more.sect ∈ names said := by
  rw [follows.opened other]
  exact last_header?_mem said

/-- What a header changes is its section's comment. -/
theorem accept_header {name : Text} {comment : Option Text}
    (placed : ∀ one ∈ said, one.sect ∈ names said) :
    (document said).accept (.header name comment) = document (said ++ [.header name comment]) := by
  have late : Late said (.header name comment) := by
    intro _ sect block line same
    contradiction
  refine amend_document late placed (fun other => nomatch other) ?_
  have given : (Statement.header name comment).headerComment? name = comment := if_pos rfl
  have same : entries (body said ++ [.header name comment]) (some name) =
      entries (body said) (some name) := by
    rw [entries, entries, Occurrences.firsts_concat_of_eq_none rfl]
    exact List.map_congr_left fun slot _ => entry_concat fun key _ => ⟨rfl, rfl⟩
  simp only [Statement.sect, sect, sectionComment?, Occurrences.last_concat, given,
    late.body_concat, same]

/-- What a definition changes is one entry of the open section. -/
theorem accept_setting {key value : Text} {comment : Option Text}
    (follows : Follows said (.setting home key value comment)) :
    (document said).accept (.setting home key value comment) =
      document (said ++ [.setting home key value comment]) := by
  have late : Late said (.setting home key value comment) := by
    intro _ sect block line same
    contradiction
  refine amend_document late follows.placed (fun other => follows.mem_names other) ?_
  have apart : ∀ other ∈ firsts (Statement.slot? home) (body said), other ≠ .key key →
      other.name ≠ key := follows.apart (.key key) (if_pos rfl)
  have same : sectionComment? (said ++ [.setting home key value comment]) home =
      sectionComment? said home := by
    cases home with
    | none => exact late.top?_concat
    | some name => exact Occurrences.last_concat _ _ _
  simp only [Statement.sect, sect, same, late.body_concat, Section.change]
  rw [← entries_setting apart]

/-- Where something was stated and no section opened, the global section is not untouched. -/
theorem atTop_document (some : said ≠ []) (placed : ∀ one ∈ said, one.sect ∈ names said)
    (unopened : last Statement.header? said = none) : (document said).atTop none = false := by
  have global : (document said).section? none = Option.some (sect said none) := by
    simp [Document.section?, Document.address, document, names, Roster.get?, sect]
  have comment : (document said).sectionComment? none = top? said := by
    simp only [Document.sectionComment?, global]
    rfl
  cases said with
  | nil => exact absurd rfl some
  | cons first rest =>
    cases first with
    | note home block line => simp [Document.atTop, comment, top?]
    | header name given =>
      have present : last Statement.header? (.header name given :: rest) ≠ none := by
        simp [last, Statement.header?]
      exact absurd unopened present
    | setting home key value given =>
      have bare : names (.setting home key value given :: rest) = [none] := by
        rw [last, List.getLast?_eq_none_iff] at unopened
        rw [names, firsts, unopened]
        rfl
      have here : home = none := by
        have there := placed _ List.mem_cons_self
        rw [bare, List.mem_singleton] at there
        exact there
      have entries : (sect (.setting home key value given :: rest) none).entries ≠ [] := by
        have member : Slot.key key ∈
            firsts (Statement.slot? none) (.setting home key value given :: rest) :=
          Occurrences.mem_firsts.mpr ⟨_, List.mem_cons_self, if_pos here⟩
        intro empty
        rw [sect, Meaning.entries, List.map_eq_nil_iff] at empty
        exact List.not_mem_nil (empty ▸ member)
      simp [Document.atTop, global, entries]

/-- What a comment block of its own changes is the global section's comment, if nothing was stated
before, or else one entry of the open section. -/
theorem accept_note {block : Text} {line : Nat} (follows : Follows said (.note home block line)) :
    (document said).accept (.note home block line) =
      document (said ++ [.note home block line]) := by
  by_cases first : said = []
  · subst first
    have here : home = none := follows.opened rfl
    subst here
    rfl
  · have late : Late said (.note home block line) := fun empty => absurd empty first
    have notTop : (document said).atTop home = false := by
      have opened := follows.opened rfl
      cases home with
      | none => exact atTop_document first follows.placed opened.symm
      | some name => rfl
    simp only [Document.accept, notTop, Bool.false_eq_true, if_false]
    refine amend_document late follows.placed (fun other => follows.mem_names other) ?_
    have apart : ∀ other ∈ firsts (Statement.slot? home) (body said), other ≠ .note block line →
        other.name ≠ (Slot.note block line).name := follows.apart (.note block line) (if_pos rfl)
    have same : sectionComment? (said ++ [.note home block line]) home =
        sectionComment? said home := by
      cases home with
      | none => exact late.top?_concat
      | some name => exact Occurrences.last_concat _ _ _
    simp only [Statement.sect, sect, same, late.body_concat, Section.put, Section.change]
    rw [← entries_note apart]

/-- A statement that may come next is accepted as described. -/
theorem accept_document (follows : Follows said more) :
    (document said).accept more = document (said ++ [more]) := by
  cases more with
  | header name comment => exact accept_header follows.placed
  | setting sect key value comment => exact accept_setting follows
  | note sect block line => exact accept_note follows

end Meaning

end IniKeeper
