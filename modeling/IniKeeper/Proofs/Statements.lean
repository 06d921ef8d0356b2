import IniKeeper.Reading
import IniKeeper.Proofs.Edits
import Mathlib.Data.List.DropRight

/-!
# What a text states

A text states something wherever a header, a setting or the end of a comment block stands in it.
What a line states depends on the lines above it and on nothing else: on the last header among
them, and on the comment lines right above. A statement changes a document in one way, whatever
text it comes from: a header opens a section, a setting defines a key, and a note is kept on its
own. A comment given with a header or a setting replaces the one before; none given keeps it.
-/

namespace IniKeeper

open Guard (StoredKey StoredName StoredValue)

namespace Line

/-- The name in a header line. -/
def header? (raw : Text) : Option Text :=
  match classify raw with
  | .header name => some name
  | _ => none

/-- A header line is one that is recognized as such. -/
theorem header?_eq_some_iff {raw name : Text} :
    header? raw = some name ↔ classify raw = .header name := by
  cases kind : classify raw <;> simp [header?, kind]

end Line

/-- One thing that a text states. -/
inductive Statement where
  /-- A header, with the comment block right above it. -/
  | header (name : Text) (comment : Option Text)
  /-- A key with its value in the open section, with the comment block right above it. -/
  | setting (sect : Option Text) (key value : Text) (comment : Option Text)
  /-- A comment block of the open section that a blank line or the end of the text settles, with
  the number of that line. -/
  | note (sect : Option Text) (block : Text) (line : Nat)
  deriving Repr, DecidableEq

namespace Statement

/-- The section that a statement is about. -/
def sect : Statement → Option Text
  | header name _ => some name
  | setting sect _ _ _ => sect
  | note sect _ _ => sect

/-- The section and the key that a statement sets. -/
def address? : Statement → Option (Option Text × Text)
  | setting sect key _ _ => some (sect, key)
  | _ => none

end Statement

/-! ### Lines in the light of those above -/

namespace Rows

/-- The names in the headers of some lines, in order. -/
def headers (rows : List Text) : List Text := rows.filterMap Line.header?

/-- The section that is open below some lines: that of the last header. -/
def openSection (rows : List Text) : Option Text := (headers rows).getLast?

/-- The comment lines right above the end of some lines, as many as there are. -/
def run (rows : List Text) : List Text := rows.rtakeWhile Line.isComment

/-- The comment block right above the end of some lines, if there is one. -/
def block? (rows : List Text) : Option Text :=
  if (run rows).isEmpty then none else some (Text.joinLines (run rows))

/-- What a line states in the light of the lines above it. -/
def statement? (above : List Text) (raw : Text) : Option Statement :=
  match Line.classify raw with
  | .blank => (block? above).map fun block => .note (openSection above) block (above.length + 1)
  | .header name => some (.header name (block? above))
  | .setting key value =>
    some (.setting (openSection above) (Text.trim key) (Text.trim value) (block? above))
  | .comment _ | .unrecognized _ => none

/-- A line that states something is blank below a comment block, a header or a setting. -/
theorem statement?_cases {above : List Text} {raw : Text} {said : Statement}
    (states : statement? above raw = some said) :
    (∃ block, Line.classify raw = .blank ∧ block? above = some block ∧
        said = .note (openSection above) block (above.length + 1)) ∨
      (∃ name, Line.classify raw = .header name ∧ said = .header name (block? above)) ∨
      ∃ key value, Line.classify raw = .setting key value ∧
        said = .setting (openSection above) (Text.trim key) (Text.trim value) (block? above) := by
  unfold statement? at states
  cases kind : Line.classify raw with
  | blank =>
    simp only [kind, Option.map_eq_some_iff] at states
    obtain ⟨block, waiting, rfl⟩ := states
    exact .inl ⟨block, rfl, waiting, rfl⟩
  | header name =>
    simp only [kind, Option.some.injEq] at states
    exact .inr (.inl ⟨name, rfl, states.symm⟩)
  | setting key value =>
    simp only [kind, Option.some.injEq] at states
    exact .inr (.inr ⟨key, value, rfl, states.symm⟩)
  | comment text => simp [kind] at states
  | unrecognized text => simp [kind] at states

/-- What each line gives in the light of the lines above it, in order. -/
def along {β : Type} (give : List Text → Text → Option β) (above : List Text) :
    List Text → List β
  | [] => []
  | raw :: rest => (give above raw).toList ++ along give (above ++ [raw]) rest

/-- What some lines state. -/
def statements (rows : List Text) : List Statement := along statement? [] rows

/-- What the lines of a whole text state: its end settles a comment block like a blank line. -/
def wholeStatements (rows : List Text) : List Statement := statements (rows ++ [[]])

/-- What the lines below others give does not depend on how far the others are gone through. -/
theorem along_append {β : Type} (give : List Text → Text → Option β)
    (above rows more : List Text) :
    along give above (rows ++ more) = along give above rows ++ along give (above ++ rows) more := by
  induction rows generalizing above with
  | nil => simp [along]
  | cons raw rows ih => simp [along, ih]

/-- One more line adds what it gives. -/
theorem along_concat {β : Type} (give : List Text → Text → Option β) (above rows : List Text)
    (raw : Text) :
    along give above (rows ++ [raw]) =
      along give above rows ++ (give (above ++ rows) raw).toList := by
  simp [along_append, along]

/-- Each item that lines give comes from a line in the light of those above it. -/
theorem mem_along {β : Type} {give : List Text → Text → Option β} {above rows : List Text}
    {item : β} :
    item ∈ along give above rows ↔
      ∃ front raw below, rows = front ++ raw :: below ∧ give (above ++ front) raw = some item := by
  induction rows generalizing above with
  | nil => simp [along]
  | cons first rest ih =>
    rw [along, List.mem_append, Option.mem_toList, ih]
    constructor
    · rintro (here | ⟨front, raw, below, rfl, gives⟩)
      · exact ⟨[], first, rest, rfl, by rwa [List.append_nil]⟩
      · refine ⟨first :: front, raw, below, rfl, ?_⟩
        rwa [List.append_assoc, List.singleton_append] at gives
    · rintro ⟨front, raw, below, split, gives⟩
      cases front with
      | nil =>
        obtain ⟨rfl, rfl⟩ := List.cons.inj split
        exact .inl (by rwa [List.append_nil] at gives)
      | cons head front =>
        obtain ⟨rfl, rfl⟩ := List.cons.inj split
        refine .inr ⟨front, raw, below, rfl, ?_⟩
        rwa [List.append_assoc, List.singleton_append]

/-- One more line adds what it states. -/
theorem statements_concat (rows : List Text) (raw : Text) :
    statements (rows ++ [raw]) = statements rows ++ (statement? rows raw).toList := by
  rw [statements, along_concat, List.nil_append, statements]

/-- A header line adds its name. -/
theorem headers_concat (rows : List Text) (raw : Text) :
    headers (rows ++ [raw]) = headers rows ++ (Line.header? raw).toList := by
  cases found : Line.header? raw <;> simp [headers, found]

/-- A header opens its section; other lines leave the open section as it is. -/
theorem openSection_concat (rows : List Text) (raw : Text) :
    openSection (rows ++ [raw]) = (Line.header? raw).or (openSection rows) := by
  rw [openSection, headers_concat]
  cases Line.header? raw with
  | none => rw [Option.toList_none, List.append_nil, Option.none_or, openSection]
  | some name => rw [Option.toList_some, List.getLast?_concat, Option.some_or]

/-- A comment line joins the run above it; any other line ends it. -/
theorem run_concat (rows : List Text) (raw : Text) :
    run (rows ++ [raw]) = if Line.isComment raw then run rows ++ [raw] else [] :=
  List.rtakeWhile_concat Line.isComment rows raw

/-- A run consists of comment lines. -/
theorem isComment_of_mem_run {rows : List Text} {row : Text} (member : row ∈ run rows) :
    Line.isComment row = true :=
  List.mem_rtakeWhile_imp member

/-- The block right above is a comment block. -/
theorem isValid_block? (rows : List Text) : Comment.isValid (block? rows) = true := by
  unfold block?
  split
  · rfl
  · rename_i some
    exact Comment.isBlock_joinLines (fun row => isComment_of_mem_run) (by simpa using some)

end Rows

/-! ### What a statement does to a document -/

namespace Document

/-- Whether nothing was said yet in or before a section that is the global one. -/
def atTop (document : Document) (sect : Option Text) : Bool :=
  sect.isNone && (document.sectionComment? none).isNone &&
    (document.section? none).any fun found => found.entries.isEmpty

/-- The document after a statement. -/
def accept (document : Document) : Statement → Document
  | .header name comment =>
    document.amend (some name) fun found => { found with comment := comment.or found.comment }
  | .setting sect key value comment =>
    document.amend sect fun found => found.change key fun entry =>
      { entry with value := some value, comment := comment.or entry.comment }
  | .note sect block line =>
    if document.atTop sect then
      document.amend none fun found => { found with comment := some block }
    else document.amend sect fun found => found.put (Entry.standalone block line)

/-- The document after statements, in order. -/
def acceptAll (document : Document) (said : List Statement) : Document := said.foldl accept document

/-- One more statement is accepted last. -/
theorem acceptAll_append (document : Document) (said more : List Statement) :
    document.acceptAll (said ++ more) = (document.acceptAll said).acceptAll more :=
  List.foldl_append

/-- Whether a statement may follow in a document: its section is open there, and what it says may
be stored. -/
def Fits (document : Document) : Statement → Prop
  | .header name comment => StoredName name ∧ Comment.isValid comment = true
  | .setting sect key value comment =>
    sect ∈ document.sectionNames ∧ StoredKey key ∧ StoredValue value ∧
      ¬ Line.Bracketed key value ∧ Comment.isValid comment = true
  | .note sect block _ => sect ∈ document.sectionNames ∧ Comment.isBlock block = true

/-- A block at the top stands in the global section. -/
theorem eq_none_of_atTop {document : Document} {sect : Option Text}
    (top : document.atTop sect = true) : sect = none := by
  simp only [atTop, Bool.and_eq_true, Option.isNone_iff_eq_none] at top
  exact top.1.1

/-- The names after a statement: that of its section is among them. -/
theorem sectionNames_accept (document : Document) (said : Statement) :
    (document.accept said).sectionNames = Roster.enroll said.sect document.sectionNames := by
  cases said with
  | header name comment => exact sectionNames_amend fun _ same => same
  | setting sect key value comment => exact sectionNames_amend fun _ same => same
  | note sect block line =>
    rw [accept]
    split
    · rename_i top
      obtain rfl := eq_none_of_atTop top
      exact sectionNames_amend fun _ same => same
    · exact sectionNames_amend fun _ same => same

/-- A sound document stays sound under a statement that may follow. -/
theorem Sound.accept {document : Document} (sound : document.Sound) {said : Statement}
    (fits : document.Fits said) : (document.accept said).Sound := by
  cases said with
  | header name comment =>
    obtain ⟨stored, valid⟩ := fits
    refine sound.amend (.inr ⟨name, rfl, stored⟩) (fun _ same => same) fun found whole => ?_
    cases comment with
    | none => exact whole.withComment whole.comment
    | some block => exact whole.withComment valid
  | setting sect key value comment =>
    obtain ⟨isOpen, storedKey, storedValue, plain, valid⟩ := fits
    exact sound.amend (.inl isOpen) (fun _ same => same) fun _ whole =>
      whole.changeSetting (Entry.settingEdit_define storedKey storedValue plain valid)
  | note sect block line =>
    obtain ⟨isOpen, valid⟩ := fits
    rw [Document.accept]
    split
    · exact sound.amend (.inl sound.global_mem) (fun _ same => same) fun _ whole =>
        whole.withComment valid
    · exact sound.amend (.inl isOpen) (fun _ same => same) fun _ whole =>
        whole.put ⟨block, line, valid, rfl⟩

end Document

end IniKeeper
