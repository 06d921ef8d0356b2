import IniKeeper.Proofs.Rendering
import IniKeeper.Proofs.Statements

/-!
# What a rendered document states

A section states its header with its comment, an entry its setting with its comment, and a comment
block of its own a note at the blank line below it. No block is open between one piece of a document
and the next, so what each piece states depends on the open section and on the number of lines above
it, and on nothing else.
-/

namespace IniKeeper

open Guard (StoredName)

namespace Layout

/-! ### Statements -/

/-- What an entry of a section states, when its last line has a number. -/
def entrySaid (home : Option Text) (line : Nat) (entry : Entry) : Statement :=
  if entry.isStandalone then .note home (entry.comment.getD []) line
  else .setting home entry.key entry.valueText entry.comment

/-- What the entries of a section state below some lines. -/
def entriesSaid (padded : Bool) (home : Option Text) (above : Nat) (entries : List Entry) :
    List Statement :=
  (stack (entryLines padded) above entries).map fun (entry, top) =>
    entrySaid home (top + entryLines padded entry) entry

/-- What the head of a section states below some lines. -/
def headSaid (above : Nat) (sect : Section) : List Statement :=
  match sect.name with
  | some name => [.header name sect.comment]
  | none => sect.comment.toList.map fun block => .note none block (above + headLines sect)

/-- What a section states below some lines. -/
def sectionSaid (padded : Bool) (above : Nat) (sect : Section) : List Statement :=
  headSaid above sect ++ entriesSaid padded sect.name (above + headLines sect) sect.entries

end Layout

/-- What a document states in its text. -/
def Document.said (document : Document) (padded : Bool) : List Statement :=
  (Layout.stack (Layout.sectionLines padded) 0 document.sections).flatMap fun (sect, above) =>
    Layout.sectionSaid padded above sect

/-! ### Lines below which nothing is open -/

/-- Whether no comment line stands right above the end of some lines, and which section is open
there. -/
structure Rows.Level (above : List Text) (home : Option Text) : Prop where
  /-- No comment waits. -/
  run : Rows.run above = []
  /-- The open section. -/
  opened : Rows.openSection above = home

namespace Layout

variable {above : List Text} {home : Option Text}

/-- Comment lines state nothing by themselves; they gather, and the open section stays open. -/
theorem along_comments {comments : List Text}
    (all : ∀ row ∈ comments, Line.isComment row = true) :
    Rows.along Rows.statement? above comments = [] ∧
      Rows.run (above ++ comments) = Rows.run above ++ comments ∧
      Rows.openSection (above ++ comments) = Rows.openSection above := by
  induction comments generalizing above with
  | nil => simp [Rows.along]
  | cons row rest ih =>
    have kind := Line.classify_of_isComment (all row List.mem_cons_self)
    obtain ⟨silent, run, opened⟩ :=
      @ih (above ++ [row]) fun other member => all other (List.mem_cons_of_mem row member)
    have states : Rows.statement? above row = none := by simp only [Rows.statement?, kind]
    have named : Line.header? row = none := by simp only [Line.header?, kind]
    rw [List.append_assoc, List.singleton_append] at run opened
    refine ⟨?_, ?_, ?_⟩
    · rw [Rows.along, states, silent]
      rfl
    · rw [run, Rows.run_concat, if_pos (all row List.mem_cons_self), List.append_assoc,
        List.singleton_append]
    · rw [opened, Rows.openSection_concat, named, Option.none_or]

/-- Below the lines of a comment its block waits. -/
theorem block?_commentRows {comment : Option Text} (level : Rows.Level above home)
    (valid : Comment.isValid comment = true) :
    Rows.block? (above ++ commentRows comment) = comment ∧
      Rows.openSection (above ++ commentRows comment) = home := by
  obtain ⟨-, run, opened⟩ := @along_comments above _ fun row =>
    isComment_of_mem_commentRows valid
  rw [level.run, List.nil_append] at run
  refine ⟨?_, opened.trans level.opened⟩
  rw [Rows.block?, run]
  cases comment with
  | none => rfl
  | some block =>
    have some : (commentRows (some block)).isEmpty = false :=
      List.isEmpty_eq_false_iff.mpr (List.splitOn_ne_nil _ _)
    rw [some, if_neg Bool.false_ne_true]
    exact congrArg Option.some (Text.joinLines_splitOn block)

/-- A comment and another line below it state what that line states, and nothing waits below. -/
theorem along_commentRows_concat {comment : Option Text} {last : Text}
    (valid : Comment.isValid comment = true) (other : Line.isComment last = false) :
    Rows.along Rows.statement? above (commentRows comment ++ [last]) =
        (Rows.statement? (above ++ commentRows comment) last).toList ∧
      Rows.run (above ++ (commentRows comment ++ [last])) = [] := by
  obtain ⟨silent, -, -⟩ := @along_comments above _ fun row =>
    isComment_of_mem_commentRows valid
  constructor
  · rw [Rows.along_concat, silent, List.nil_append]
  · rw [← List.append_assoc, Rows.run_concat, other, if_neg Bool.false_ne_true]

/-- A comment block on its own is a note at the blank line below it. -/
theorem along_standingRows {block : Text} (level : Rows.Level above home)
    (valid : Comment.isBlock block = true) :
    Rows.along Rows.statement? above (standingRows (some block)) =
        [.note home block (above.length + (standingRows (some block)).length)] ∧
      Rows.Level (above ++ standingRows (some block)) home := by
  have blank : Line.classify [] = .blank := rfl
  obtain ⟨waits, opened⟩ := @block?_commentRows above home (some block) level valid
  obtain ⟨along, run⟩ := @along_commentRows_concat above (some block) [] valid rfl
  have states : Rows.statement? (above ++ commentRows (some block)) [] =
      some (.note home block (above.length + (standingRows (some block)).length)) := by
    simp only [Rows.statement?, blank, waits, opened, Option.map_some]
    rw [List.length_append, standingRows, List.length_append, List.length_singleton,
      Nat.add_assoc]
    rfl
  refine ⟨?_, ⟨run, ?_⟩⟩
  · rw [states] at along
    exact along
  · have shut := Rows.openSection_concat (above ++ commentRows (some block)) []
    rw [List.append_assoc, opened] at shut
    exact shut

/-- A sound entry states what it is. -/
theorem along_entryRows (padded : Bool) {entry : Entry} (level : Rows.Level above home)
    (sound : entry.IsSetting ∨ entry.IsNote) :
    Rows.along Rows.statement? above (entryRows padded entry) =
        [entrySaid home (above.length + entryLines padded entry) entry] ∧
      Rows.Level (above ++ entryRows padded entry) home := by
  rw [entryLines_eq padded sound]
  unfold entryRows entrySaid
  rcases sound with setting | note
  · rw [setting.not_isStandalone]
    simp only [Bool.false_eq_true, if_false]
    obtain ⟨-, storedValue, plain⟩ := exists_valueText setting
    obtain ⟨keyText, valueText, kind, trimmedKey, trimmedValue⟩ :=
      classify_settingLine padded setting.key storedValue plain
    have other := Line.isComment_eq_false fun whole => by rw [kind]; exact nofun
    obtain ⟨waits, opened⟩ := block?_commentRows level setting.comment
    obtain ⟨along, run⟩ := @along_commentRows_concat above entry.comment _ setting.comment other
    have states : Rows.statement? (above ++ commentRows entry.comment)
          (settingLine padded entry.key entry.valueText) =
        some (.setting home entry.key entry.valueText entry.comment) := by
      simp only [Rows.statement?, kind, waits, opened, trimmedKey, trimmedValue]
    have named : Line.header? (settingLine padded entry.key entry.valueText) = none := by
      simp only [Line.header?, kind]
    refine ⟨?_, ⟨run, ?_⟩⟩
    · rw [along, states, Option.toList_some]
    · rw [← List.append_assoc, Rows.openSection_concat, named, Option.none_or, opened]
  · rw [note.isStandalone]
    simp only [if_true]
    obtain ⟨block, line, valid, rfl⟩ := note
    exact along_standingRows level valid

/-- Sound entries state one after the other what they are. -/
theorem along_entries (padded : Bool) {entries : List Entry} (level : Rows.Level above home)
    (sound : ∀ entry ∈ entries, entry.IsSetting ∨ entry.IsNote) :
    Rows.along Rows.statement? above (entries.flatMap (entryRows padded)) =
        entriesSaid padded home above.length entries ∧
      Rows.Level (above ++ entries.flatMap (entryRows padded)) home := by
  induction entries generalizing above with
  | nil => simpa [Rows.along, entriesSaid, stack] using level
  | cons entry rest ih =>
    have kinds := sound entry List.mem_cons_self
    obtain ⟨first, further⟩ := along_entryRows padded level kinds
    obtain ⟨others, last⟩ := ih further fun other member =>
      sound other (List.mem_cons_of_mem entry member)
    rw [List.length_append, ← entryLines_eq padded kinds] at others
    rw [List.append_assoc] at last
    rw [List.flatMap_cons]
    refine ⟨?_, last⟩
    rw [Rows.along_append, first, others]
    rfl

/-- A header states itself with its comment; its section is open below. -/
theorem along_header {comment : Option Text} {name : Text} (level : Rows.Level above home)
    (valid : Comment.isValid comment = true) (stored : StoredName name) :
    Rows.along Rows.statement? above (commentRows comment ++ [['['] ++ name ++ [']'], []]) =
        [.header name comment] ∧
      Rows.Level (above ++ (commentRows comment ++ [['['] ++ name ++ [']'], []])) (some name) := by
  have kind : Line.classify (['['] ++ name ++ [']']) = .header name := by
    rw [Line.classify_of_headerShape (headerShape_bracketed stored.noClose), stored.trimmed]
  have other := Line.isComment_eq_false fun whole => by rw [kind]; exact nofun
  have blank : Line.classify [] = .blank := rfl
  have unnamed : Line.header? [] = none := rfl
  have opens : Line.header? (['['] ++ name ++ [']']) = some name := by
    simp only [Line.header?, kind]
  obtain ⟨waits, -⟩ := block?_commentRows level valid
  obtain ⟨along, run⟩ := @along_commentRows_concat above comment _ valid other
  have states : Rows.statement? (above ++ commentRows comment) (['['] ++ name ++ [']']) =
      some (.header name comment) := by
    simp only [Rows.statement?, kind, waits]
  have silent : Rows.statement? (above ++ (commentRows comment ++ [['['] ++ name ++ [']']])) [] =
      none := by
    simp only [Rows.statement?, blank, Rows.block?, run]
    rfl
  have split : commentRows comment ++ [['['] ++ name ++ [']'], []] =
      (commentRows comment ++ [['['] ++ name ++ [']']]) ++ [[]] := by simp
  rw [split]
  refine ⟨?_, ⟨?_, ?_⟩⟩
  · rw [Rows.along_concat, along, states, silent]
    rfl
  · rw [← List.append_assoc, Rows.run_concat]
    rfl
  · rw [← List.append_assoc, Rows.openSection_concat, unnamed, Option.none_or,
      ← List.append_assoc, Rows.openSection_concat, opens, Option.some_or]

/-- The head of a sound section states its header, or the note that is the global comment. -/
theorem along_headRows {sect : Section} (sound : sect.Sound)
    (named : ∀ name, sect.name = some name → StoredName name)
    (level : Rows.Level above home) (same : sect.name = none → home = none) :
    Rows.along Rows.statement? above (headRows sect) = headSaid above.length sect ∧
      Rows.Level (above ++ headRows sect) sect.name := by
  have lines := headLines_eq sound named
  unfold headSaid
  rw [lines]
  unfold headRows
  cases kind : sect.name with
  | some name => exact along_header level sound.comment (named name kind)
  | none =>
    rw [same kind] at level
    cases given : sect.comment with
    | none => simpa [Rows.along, standingRows] using level
    | some block =>
      have valid := sound.comment
      rw [given] at valid
      exact along_standingRows level valid

/-- A sound section states its head and its entries. -/
theorem along_sectionRows (padded : Bool) {sect : Section} (sound : sect.Sound)
    (named : ∀ name, sect.name = some name → StoredName name)
    (level : Rows.Level above home) (same : sect.name = none → home = none) :
    Rows.along Rows.statement? above (sectionRows padded sect) =
        sectionSaid padded above.length sect ∧
      Rows.Level (above ++ sectionRows padded sect) sect.name := by
  obtain ⟨head, below⟩ := along_headRows sound named level same
  obtain ⟨entries, last⟩ := along_entries padded below sound.entries
  rw [List.length_append, ← headLines_eq sound named] at entries
  rw [List.append_assoc] at last
  refine ⟨?_, last⟩
  rw [sectionRows, Rows.along_append, head, entries]
  rfl

/-- A sound section takes up as many lines as it has. -/
theorem sectionLines_eq (padded : Bool) {sect : Section} (sound : sect.Sound)
    (named : ∀ name, sect.name = some name → StoredName name) :
    sectionLines padded sect = (sectionRows padded sect).length := by
  rw [sectionLines, sectionText_eq, Text.count_endLines]
  intro row member
  rcases List.mem_append.mp member with head | body
  · exact (rendered_of_mem_headRows sound named head).clean
  · obtain ⟨entry, there, below⟩ := List.mem_flatMap.mp body
    exact (rendered_of_mem_entryRows (sound.entries entry there) below).clean

/-- Sound sections with names state one after the other what they are. -/
theorem along_sections (padded : Bool) {sections : List Section} (level : Rows.Level above home)
    (sound : ∀ sect ∈ sections, sect.Sound)
    (named : ∀ sect ∈ sections, ∃ name, sect.name = some name ∧ StoredName name) :
    Rows.along Rows.statement? above (sections.flatMap (sectionRows padded)) =
        (stack (sectionLines padded) above.length sections).flatMap
          (fun placed => sectionSaid padded placed.2 placed.1) ∧
      Rows.run (above ++ sections.flatMap (sectionRows padded)) = [] := by
  induction sections generalizing above home with
  | nil => simpa [Rows.along, stack] using level.run
  | cons sect rest ih =>
    obtain ⟨name, here, stored⟩ := named sect List.mem_cons_self
    have whole := sound sect List.mem_cons_self
    have only : ∀ other, sect.name = some other → StoredName other := by
      intro other same
      rw [here] at same
      exact Option.some.inj same ▸ stored
    obtain ⟨first, further⟩ := along_sectionRows padded whole only level fun missing => by
      rw [here] at missing
      contradiction
    obtain ⟨others, last⟩ := ih further
      (fun other member => sound other (List.mem_cons_of_mem sect member))
      fun other member => named other (List.mem_cons_of_mem sect member)
    rw [List.length_append, ← sectionLines_eq padded whole only] at others
    rw [List.append_assoc] at last
    rw [List.flatMap_cons]
    refine ⟨?_, last⟩
    rw [Rows.along_append, first, others, stack, List.flatMap_cons]

end Layout

namespace Document

/-- A sound document is its global section and sections with names. -/
theorem Sound.exists_global {document : Document} (sound : document.Sound) :
    ∃ global rest, document.sections = global :: rest ∧ global.name = none ∧
      ∀ sect ∈ rest, ∃ name, sect.name = some name ∧ StoredName name := by
  have first := sound.first
  have distinct := sound.distinct
  unfold sectionNames at first distinct
  cases sections : document.sections with
  | nil =>
    rw [sections] at first
    contradiction
  | cons global rest =>
    rw [sections] at first distinct
    have unnamed : global.name = none := Option.some.inj first
    refine ⟨global, rest, rfl, unnamed, fun sect member => ?_⟩
    cases named : sect.name with
    | none =>
      rw [List.map_cons, List.nodup_cons, unnamed] at distinct
      exact absurd (List.mem_map.mpr ⟨sect, member, named⟩) distinct.1
    | some name =>
      have there : sect ∈ document.sections := sections ▸ List.mem_cons_of_mem global member
      exact ⟨name, rfl, sound.storedName there name named⟩

/-- The lines of a sound document state what it is, and nothing waits below them. -/
theorem Sound.statements_rows {document : Document} (sound : document.Sound) (padded : Bool) :
    Rows.statements (document.rows padded) = document.said padded ∧
      Rows.run (document.rows padded) = [] := by
  obtain ⟨global, rest, sections, unnamed, named⟩ := sound.exists_global
  have whole := sound.sections global (sections ▸ List.mem_cons_self)
  have only := sound.storedName (sections ▸ List.mem_cons_self : global ∈ document.sections)
  obtain ⟨first, further⟩ := @Layout.along_sectionRows [] none padded global whole only
    ⟨rfl, rfl⟩ fun _ => rfl
  rw [List.nil_append] at further
  obtain ⟨others, run⟩ := Layout.along_sections padded further
    (fun sect member => sound.sections sect (sections ▸ List.mem_cons_of_mem global member)) named
  rw [← List.flatMap_cons, ← sections] at run
  refine ⟨?_, run⟩
  rw [Rows.statements, rows, sections, List.flatMap_cons, Rows.along_append, List.nil_append,
    first, others, said, sections, Layout.stack, List.flatMap_cons, Nat.zero_add,
    Layout.sectionLines_eq padded whole only]
  rfl

/-- The end of the text adds nothing to what the lines of a sound document state. -/
theorem Sound.wholeStatements_rows {document : Document} (sound : document.Sound)
    (padded : Bool) :
    Rows.wholeStatements (document.rows padded) = document.said padded := by
  obtain ⟨statements, run⟩ := sound.statements_rows padded
  have blank : Line.classify [] = .blank := rfl
  have silent : Rows.statement? (document.rows padded) [] = none := by
    simp only [Rows.statement?, blank, Rows.block?, run]
    rfl
  rw [Rows.wholeStatements, Rows.statements_concat, silent, statements, Option.toList_none,
    List.append_nil]

end Document

end IniKeeper
