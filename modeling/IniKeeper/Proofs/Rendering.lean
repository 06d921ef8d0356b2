import IniKeeper.Proofs.NormalForm
import Mathlib.Data.List.Basic

/-!
# The lines of a rendered document

The text of a document is a list of lines, each of them ended: the lines of comments, headers,
blank lines, and one line for each setting. In the text of a sound document no line has a line feed
inside, so these are the lines that a reader sees, except that comment lines lose a carriage return
at their end.
-/

namespace IniKeeper

open Guard (StoredKey StoredName StoredValue)

namespace Layout

/-- The lines of a comment. -/
def commentRows : Option Text → List Text
  | none => []
  | some block => block.splitOn '\n'

/-- The lines of a comment block on its own, with the blank line below it. -/
def standingRows : Option Text → List Text
  | none => []
  | some block => block.splitOn '\n' ++ [[]]

/-- The lines of an entry. -/
def entryRows (padded : Bool) (entry : Entry) : List Text :=
  if entry.isStandalone then standingRows entry.comment
  else commentRows entry.comment ++ [settingLine padded entry.key entry.valueText]

/-- The lines above the entries of a section. -/
def headRows (sect : Section) : List Text :=
  match sect.name with
  | some name => commentRows sect.comment ++ [['['] ++ name ++ [']'], []]
  | none => standingRows sect.comment

/-- The lines of a section. -/
def sectionRows (padded : Bool) (sect : Section) : List Text :=
  headRows sect ++ sect.entries.flatMap (entryRows padded)

end Layout

/-- The lines of a document. -/
def Document.rows (document : Document) (padded : Bool) : List Text :=
  document.sections.flatMap (Layout.sectionRows padded)

namespace Layout

/-! ### The text is its lines -/

/-- A block with a line feed is its lines. -/
theorem block_append_feed (block : Text) :
    block ++ ['\n'] = Text.endLines (block.splitOn '\n') := by
  rw [← Text.joinLines_append_feed (List.splitOn_ne_nil '\n' block), Text.joinLines_splitOn]

/-- The text of a comment is its lines. -/
theorem commentText_eq (comment : Option Text) :
    commentText comment = Text.endLines (commentRows comment) := by
  cases comment with
  | none => rfl
  | some block => exact block_append_feed block

/-- The text of a comment block on its own is its lines. -/
theorem block_append_feeds (block : Text) :
    block ++ ['\n', '\n'] = Text.endLines (standingRows (some block)) := by
  rw [standingRows, Text.endLines_append, ← block_append_feed, List.append_assoc]
  rfl

/-- The text of an entry is its lines. -/
theorem entryText_eq (padded : Bool) (entry : Entry) :
    entryText padded entry = Text.endLines (entryRows padded entry) := by
  unfold entryText entryRows
  split
  · cases entry.comment with
    | none => rfl
    | some block => exact block_append_feeds block
  · rw [Text.endLines_append, ← commentText_eq, List.append_assoc]
    simp [Text.endLines]

/-- The text above the entries of a section is its lines. -/
theorem headText_eq (sect : Section) : headText sect = Text.endLines (headRows sect) := by
  unfold headText headRows
  cases sect.name with
  | some name =>
    rw [Text.endLines_append, ← commentText_eq]
    simp [Text.endLines]
  | none =>
    cases sect.comment with
    | none => rfl
    | some block => exact block_append_feeds block

/-- The ended lines of things are the ended lines of each. -/
theorem endLines_flatMap {α : Type} (give : α → List Text) (things : List α) :
    Text.endLines (things.flatMap give) = things.flatMap fun a => Text.endLines (give a) := by
  rw [Text.endLines, List.flatMap_assoc]
  rfl

/-- The text of a section is its lines. -/
theorem sectionText_eq (padded : Bool) (sect : Section) :
    sectionText padded sect = Text.endLines (sectionRows padded sect) := by
  have entries : entryText padded = fun entry => Text.endLines (entryRows padded entry) :=
    funext fun entry => entryText_eq padded entry
  rw [sectionText, sectionRows, Text.endLines_append, endLines_flatMap, headText_eq, entries]

end Layout

/-- The text of a document is its lines. -/
theorem Document.render_eq (document : Document) (padded : Bool) :
    document.render padded = Text.endLines (document.rows padded) := by
  have sections : Layout.sectionText padded =
      fun sect => Text.endLines (Layout.sectionRows padded sect) :=
    funext fun sect => Layout.sectionText_eq padded sect
  rw [render, rows, Layout.endLines_flatMap, sections]

namespace Layout

/-! ### The line of a setting -/

/-- The white space on either side of the equals sign. -/
def gap (padded : Bool) : Text := if padded then [' '] else []

/-- Only spaces stand beside an equals sign. -/
theorem eq_space_of_mem_gap {padded : Bool} {c : Char} (member : c ∈ gap padded) : c = ' ' := by
  cases padded with
  | false => exact absurd member List.not_mem_nil
  | true => exact List.mem_singleton.mp member

/-- What stands beside an equals sign is white space. -/
theorem allBlank_gap (padded : Bool) : Text.AllBlank (gap padded) := by
  intro c member
  rw [eq_space_of_mem_gap member]
  decide

/-- The line of a setting, around its equals sign. -/
theorem settingLine_eq (padded : Bool) (key value : Text) :
    settingLine padded key value =
      (key ++ gap padded) ++ '=' :: Text.trimEnd (gap padded ++ value) := by
  have solid : Text.isBlank '=' = false := by decide
  have around : key ++ separator padded ++ value =
      (key ++ gap padded) ++ '=' :: (gap padded ++ value) := by
    cases padded <;> simp [separator, gap]
  rw [settingLine, around, Text.trimEnd_append_cons solid]

/-- Nothing but a key, an equals sign, spaces and a value stands in the line of a setting. -/
theorem mem_settingLine {padded : Bool} {key value : Text} {c : Char}
    (member : c ∈ settingLine padded key value) : c ∈ key ∨ c = '=' ∨ c = ' ' ∨ c ∈ value := by
  rw [settingLine_eq] at member
  rcases List.mem_append.mp member with front | back
  · rcases List.mem_append.mp front with inKey | blank
    · exact .inl inKey
    · exact .inr (.inr (.inl (eq_space_of_mem_gap blank)))
  · rcases List.mem_cons.mp back with sign | rest
    · exact .inr (.inl sign)
    · rcases List.mem_append.mp (Text.mem_of_mem_trimEnd rest) with blank | inValue
      · exact .inr (.inr (.inl (eq_space_of_mem_gap blank)))
      · exact .inr (.inr (.inr inValue))

/-- A key and a value that may be stored together are read back from their line. -/
theorem classify_settingLine {key value : Text} (padded : Bool) (storedKey : StoredKey key)
    (storedValue : StoredValue value) (plain : ¬ Line.Bracketed key value) :
    ∃ keyText valueText, Line.classify (settingLine padded key value) = .setting keyText valueText ∧
      Text.trim keyText = key ∧ Text.trim valueText = value := by
  have trimmedKey : Text.trim (key ++ gap padded) = key := by
    rw [Text.trim_append_blank (allBlank_gap padded)]
    exact storedKey.trimmed
  have trimmedValue : Text.trim (Text.trimEnd (gap padded ++ value)) = value := by
    rw [Text.trim_trimEnd, Text.trim_blank_append (allBlank_gap padded)]
    exact storedValue.trimmed
  have whole := settingLine_eq padded key value
  refine ⟨key ++ gap padded, Text.trimEnd (gap padded ++ value), ?_, trimmedKey, trimmedValue⟩
  refine Line.classify_of_settingShape ⟨fun c member => ?_, whole⟩ ?_ ?_ ?_
  · rcases List.mem_append.mp member with inKey | blank
    · exact storedKey.chars c inKey
    · rw [eq_space_of_mem_gap blank]
      decide
  · rw [settingLine_eq]
    intro name header
    have bracketed := Line.exists_headerShape_iff.mp ⟨name, header⟩
    rw [trimmedKey, trimmedValue] at bracketed
    exact plain bracketed
  · intro empty
    exact storedKey.named (List.append_eq_nil_iff.mp empty).1
  · intro feed
    rcases List.mem_append.mp (Text.mem_of_mem_trimEnd feed) with blank | inValue
    · exact absurd (eq_space_of_mem_gap blank) (by decide)
    · exact storedValue.noFeed inValue

/-- The line of a setting that may be stored has neither line feeds nor carriage returns. -/
theorem settingLine_unbroken {key value : Text} (padded : Bool) (storedKey : StoredKey key)
    (storedValue : StoredValue value) :
    '\n' ∉ settingLine padded key value ∧ '\r' ∉ settingLine padded key value := by
  constructor
  · intro feed
    rcases mem_settingLine feed with inKey | sign | blank | inValue
    · exact storedKey.noFeed inKey
    · contradiction
    · contradiction
    · exact storedValue.noFeed inValue
  · intro back
    rcases mem_settingLine back with inKey | sign | blank | inValue
    · exact storedKey.noReturn inKey
    · contradiction
    · contradiction
    · exact storedValue.noReturn inValue

/-! ### What the lines are -/

/-- The lines of a valid comment are comment lines. -/
theorem isComment_of_mem_commentRows {comment : Option Text} {row : Text}
    (valid : Comment.isValid comment = true) (member : row ∈ commentRows comment) :
    Line.isComment row = true := by
  cases comment with
  | none => exact absurd member List.not_mem_nil
  | some block => exact Comment.isBlock_iff.mp valid row member

/-- The lines of a block on its own are those of the comment and a blank one. -/
theorem mem_standingRows {comment : Option Text} {row : Text}
    (member : row ∈ standingRows comment) : row ∈ commentRows comment ∨ row = [] := by
  cases comment with
  | none => exact absurd member List.not_mem_nil
  | some block => exact (List.mem_append.mp member).imp id List.mem_singleton.mp

/-- A name between brackets has the shape of a header. -/
theorem headerShape_bracketed {name : Text} (noClose : ']' ∉ name) :
    Line.HeaderShape (['['] ++ name ++ [']']) name :=
  ⟨[], [], Text.allBlank_nil, Text.allBlank_nil, noClose, rfl⟩

/-- A line of a rendered document. -/
inductive Rendered (row : Text) : Prop where
  /-- A line of a comment. -/
  | comment (isComment : Line.isComment row = true)
  /-- A blank line. -/
  | blank (empty : row = [])
  /-- A header. -/
  | header (name : Text) (stored : StoredName name) (whole : row = ['['] ++ name ++ [']'])
  /-- A key with its value. -/
  | setting (padded : Bool) (key value : Text) (storedKey : StoredKey key)
      (storedValue : StoredValue value) (plain : ¬ Line.Bracketed key value)
      (whole : row = settingLine padded key value)

/-- No line of a rendered document has a line feed inside. -/
theorem Rendered.clean {row : Text} (rendered : Rendered row) : '\n' ∉ row := by
  cases rendered with
  | comment isComment => exact (Line.isComment_iff.mp isComment).2
  | blank empty => exact empty ▸ List.not_mem_nil
  | header name stored whole =>
    rw [whole]
    simpa using stored.noFeed
  | setting padded key value storedKey storedValue plain whole =>
    exact whole ▸ (settingLine_unbroken padded storedKey storedValue).1

/-- Every line of a rendered document is well formed. -/
theorem Rendered.wellFormed {row : Text} (rendered : Rendered row) : Line.WellFormed row := by
  cases rendered with
  | comment isComment => exact .comment (Line.isComment_iff.mp isComment).1
  | blank empty => exact .blank (empty ▸ Text.allBlank_nil)
  | header name stored whole =>
    rw [whole]
    refine .header name (headerShape_bracketed stored.noClose) ?_ ?_
    · rw [stored.trimmed]
      exact stored.named
    · rw [stored.trimmed]
      exact stored.noReturn
  | setting padded key value storedKey storedValue plain whole =>
    have clean := (settingLine_unbroken padded storedKey storedValue).1
    obtain ⟨keyText, valueText, kind, trimmedKey, trimmedValue⟩ :=
      classify_settingLine padded storedKey storedValue plain
    rw [whole, Line.wellFormed_iff clean, kind]
    simp only [trimmedKey, trimmedValue]
    exact ⟨storedKey.named, storedKey.noReturn, storedValue.noReturn⟩

/-- The lines of a comment block on its own. -/
theorem rendered_of_mem_standingRows {comment : Option Text} {row : Text}
    (valid : Comment.isValid comment = true) (member : row ∈ standingRows comment) :
    Rendered row := by
  rcases mem_standingRows member with inComment | blank
  · exact .comment (isComment_of_mem_commentRows valid inComment)
  · exact .blank blank

/-- The text of a setting's value is the value. -/
theorem exists_valueText {entry : Entry} (setting : entry.IsSetting) :
    entry.value = some entry.valueText ∧ StoredValue entry.valueText ∧
      ¬ Line.Bracketed entry.key entry.valueText := by
  obtain ⟨value, given, storedValue, plain⟩ := setting.value
  have same : entry.valueText = value := by rw [Entry.valueText, given, Option.getD_some]
  rw [same]
  exact ⟨given, storedValue, plain⟩

/-- The lines of a sound entry. -/
theorem rendered_of_mem_entryRows {padded : Bool} {entry : Entry}
    (sound : entry.IsSetting ∨ entry.IsNote) {row : Text}
    (member : row ∈ entryRows padded entry) : Rendered row := by
  unfold entryRows at member
  rcases sound with setting | note
  · rw [setting.not_isStandalone, if_neg Bool.false_ne_true] at member
    obtain ⟨-, storedValue, plain⟩ := exists_valueText setting
    rcases List.mem_append.mp member with inComment | last
    · exact .comment (isComment_of_mem_commentRows setting.comment inComment)
    · exact .setting padded entry.key entry.valueText setting.key storedValue plain
        (List.mem_singleton.mp last)
  · rw [note.isStandalone, if_pos rfl] at member
    obtain ⟨block, line, valid, rfl⟩ := note
    exact @rendered_of_mem_standingRows (some block) row valid member

/-- The lines above the entries of a sound section. -/
theorem rendered_of_mem_headRows {sect : Section} (sound : sect.Sound)
    (named : ∀ name, sect.name = some name → StoredName name) {row : Text}
    (member : row ∈ headRows sect) : Rendered row := by
  unfold headRows at member
  split at member
  · rename_i name some
    rcases List.mem_append.mp member with inComment | rest
    · exact .comment (isComment_of_mem_commentRows sound.comment inComment)
    · simp only [List.mem_cons, List.not_mem_nil, or_false] at rest
      rcases rest with header | blank
      · exact .header name (named name some) header
      · exact .blank blank
  · exact rendered_of_mem_standingRows sound.comment member

/-! ### How many lines there are -/

/-- A sound entry takes up as many lines as it has. -/
theorem entryLines_eq (padded : Bool) {entry : Entry} (sound : entry.IsSetting ∨ entry.IsNote) :
    entryLines padded entry = (entryRows padded entry).length := by
  rw [entryLines, entryText_eq, Text.count_endLines]
  exact fun row member => (rendered_of_mem_entryRows sound member).clean

/-- A comment block of its own takes up at least the blank line below it. -/
theorem entryLines_pos (padded : Bool) {entry : Entry} (note : entry.IsNote) :
    0 < entryLines padded entry := by
  rw [entryLines_eq padded (.inr note), entryRows, note.isStandalone, if_pos rfl]
  obtain ⟨block, line, -, rfl⟩ := note
  rw [Entry.standalone, standingRows, List.length_append]
  exact Nat.succ_pos _

/-- The head of a sound section takes up as many lines as it has. -/
theorem headLines_eq {sect : Section} (sound : sect.Sound)
    (named : ∀ name, sect.name = some name → StoredName name) :
    headLines sect = (headRows sect).length := by
  rw [headLines, headText_eq, Text.count_endLines]
  exact fun row member => (rendered_of_mem_headRows sound named member).clean

/-- An entry has the same number of lines whether equals signs are padded or not. -/
theorem length_entryRows (padded again : Bool) (entry : Entry) :
    (entryRows padded entry).length = (entryRows again entry).length := by
  unfold entryRows
  split
  · rfl
  · rw [List.length_append, List.length_append]
    rfl

/-! ### The lines that a reader sees -/

/-- A line without carriage returns is seen as it is. -/
theorem dropReturn_of_not_mem {row : Text} (absent : '\r' ∉ row) : Text.dropReturn row = row :=
  Text.dropReturn_eq_self_iff.mpr fun ends => absent (List.mem_of_getLast? ends)

/-- A comment is seen without carriage returns at the ends of its lines. -/
theorem map_dropReturn_commentRows (comment : Option Text) :
    (commentRows comment).map Text.dropReturn =
      commentRows (comment.map Comment.dropReturns) := by
  cases comment with
  | none => rfl
  | some block => exact (Comment.splitOn_dropReturns block).symm

/-- A comment block on its own is seen without carriage returns at the ends of its lines. -/
theorem map_dropReturn_standingRows (comment : Option Text) :
    (standingRows comment).map Text.dropReturn =
      standingRows (comment.map Comment.dropReturns) := by
  cases comment with
  | none => rfl
  | some block =>
    rw [standingRows, List.map_append, ← Comment.splitOn_dropReturns]
    rfl

/-- A sound entry is seen without carriage returns in its comment. -/
theorem map_dropReturn_entryRows (padded : Bool) {entry : Entry}
    (sound : entry.IsSetting ∨ entry.IsNote) :
    (entryRows padded entry).map Text.dropReturn = entryRows padded entry.dropReturns := by
  have same : entry.dropReturns.isStandalone = entry.isStandalone := rfl
  rw [entryRows, entryRows, same]
  rcases sound with setting | note
  · obtain ⟨-, storedValue, -⟩ := exists_valueText setting
    have last := dropReturn_of_not_mem (settingLine_unbroken padded setting.key storedValue).2
    rw [setting.not_isStandalone, if_neg Bool.false_ne_true, if_neg Bool.false_ne_true,
      List.map_append, map_dropReturn_commentRows, List.map_singleton, last]
    rfl
  · rw [note.isStandalone, if_pos rfl, if_pos rfl, map_dropReturn_standingRows]
    rfl

/-- The head of a section is seen without carriage returns in its comment. -/
theorem map_dropReturn_headRows {sect : Section}
    (named : ∀ name, sect.name = some name → StoredName name) :
    (headRows sect).map Text.dropReturn = headRows sect.dropReturns := by
  unfold headRows
  cases known : sect.name with
  | none =>
    rw [map_dropReturn_standingRows]
    simp only [Section.dropReturns, known]
  | some name =>
    have stored := named name known
    have header : Text.dropReturn (['['] ++ name ++ [']']) = ['['] ++ name ++ [']'] :=
      dropReturn_of_not_mem (by simpa using stored.noReturn)
    simp only [Section.dropReturns, known, List.map_append, map_dropReturn_commentRows,
      List.map_cons, header, List.map_nil]
    rfl

/-- A sound section is seen without carriage returns in its comments. -/
theorem map_dropReturn_sectionRows (padded : Bool) {sect : Section} (sound : sect.Sound)
    (named : ∀ name, sect.name = some name → StoredName name) :
    (sectionRows padded sect).map Text.dropReturn = sectionRows padded sect.dropReturns := by
  have entries : (sect.entries.flatMap (entryRows padded)).map Text.dropReturn =
      sect.dropReturns.entries.flatMap (entryRows padded) := by
    rw [List.map_flatMap, Section.dropReturns, List.flatMap_map]
    exact List.flatMap_congr fun entry inside =>
      map_dropReturn_entryRows padded (sound.entries entry inside)
  rw [sectionRows, List.map_append, map_dropReturn_headRows named, entries, sectionRows]

end Layout

namespace Document

open Layout

/-- The names of the sections of a sound document may be stored. -/
theorem Sound.storedName {document : Document} (sound : document.Sound) {sect : Section}
    (member : sect ∈ document.sections) : ∀ name, sect.name = some name → StoredName name :=
  fun name named => sound.named name (List.mem_map.mpr ⟨sect, member, named⟩)

/-- What the lines of a sound document are. -/
theorem Sound.rendered_of_mem_rows {document : Document} (sound : document.Sound) {padded : Bool}
    {row : Text} (member : row ∈ document.rows padded) : Rendered row := by
  obtain ⟨sect, inside, here⟩ := List.mem_flatMap.mp member
  have whole := sound.sections sect inside
  rcases List.mem_append.mp here with head | body
  · exact rendered_of_mem_headRows whole (sound.storedName inside) head
  · obtain ⟨entry, there, below⟩ := List.mem_flatMap.mp body
    exact rendered_of_mem_entryRows (whole.entries entry there) below

/-- Numbers are the same whether equals signs are padded or not. -/
theorem Sound.rekey_eq {document : Document} (sound : document.Sound) (padded again : Bool) :
    document.rekey padded = document.rekey again := by
  have byEntry : ∀ sect ∈ document.sections, ∀ entry ∈ sect.entries,
      entryLines padded entry = entryLines again entry := by
    intro sect member entry inside
    have kinds := (sound.sections sect member).entries entry inside
    rw [entryLines_eq padded kinds, entryLines_eq again kinds, length_entryRows padded again]
  have byLines : ∀ sect ∈ document.sections,
      sectionLines padded sect = sectionLines again sect := by
    intro sect member
    rw [Section.sectionLines_eq, Section.sectionLines_eq,
      List.map_congr_left (byEntry sect member)]
  have bySection : ∀ sect ∈ document.sections, ∀ above,
      sect.rekey padded above = sect.rekey again above := by
    intro sect member above
    simp only [Section.rekey, rekeyAll, stack_congr (byEntry sect member)]
    refine congrArg (Section.mk sect.name sect.comment) ?_
    refine List.map_congr_left fun placed inside => ?_
    rw [byEntry sect member placed.1 (mem_of_mem_stack inside)]
  rw [rekey, rekey, stack_congr byLines]
  exact congrArg Document.mk (List.map_congr_left fun placed inside =>
    bySection placed.1 (mem_of_mem_stack inside) placed.2)

/-- The normal form is the same whether equals signs are padded or not. -/
theorem Sound.normal_padded {document : Document} (sound : document.Sound) (padded again : Bool) :
    document.normal padded = document.normal again := by
  rw [normal, normal, sound.rekey_eq padded again]

/-- A reader sees the lines of the document without carriage returns in its comments. -/
theorem Sound.map_dropReturn_rows {document : Document} (sound : document.Sound) (padded : Bool) :
    (document.rows padded).map Text.dropReturn = document.dropReturns.rows padded := by
  rw [rows, rows, List.map_flatMap, Document.dropReturns, List.flatMap_map]
  exact List.flatMap_congr fun sect member =>
    map_dropReturn_sectionRows padded (sound.sections sect member) (sound.storedName member)

/-- The lines that a reader sees in the text of a sound document. -/
theorem Sound.lines_render {document : Document} (sound : document.Sound) (padded : Bool) :
    Text.lines (document.render padded) = document.dropReturns.rows padded := by
  rw [render_eq, Text.lines_endLines _ fun row member => (sound.rendered_of_mem_rows member).clean,
    sound.map_dropReturn_rows]

end Document

end IniKeeper
