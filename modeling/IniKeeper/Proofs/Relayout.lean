import IniKeeper.Proofs.Numbering
import Mathlib.Logic.Relation

/-!
# Layout does not matter

White space around the parts of a header or a setting, blank lines that no comment line stands right
above, and carriage returns before line feeds change nothing in what a text is read into. A line
counts by its sense: its kind and the trimmed parts that the kind names. Two texts are alike when
their lines that are not blank have the same senses one by one and the same is stated, up to the
numbers of lines; that is an equivalence, every single change keeps it, and it decides what comes of
a text.
-/

namespace IniKeeper

open Text (AllBlank)

/-! ### What a line says -/

namespace Line

/-- What a line says: its kind, with the key and the value of a setting trimmed. -/
def sense (raw : Text) : Line :=
  match classify raw with
  | .setting key value => .setting (Text.trim key) (Text.trim value)
  | kind => kind

/-- Whether a line of this sense is well formed. -/
def Allowed : Line → Prop
  | .blank => True
  | .header name => name ≠ [] ∧ '\r' ∉ name
  | .comment _ => True
  | .setting key value => key ≠ [] ∧ '\r' ∉ key ∧ '\r' ∉ value
  | .unrecognized _ => False

/-- A line is well formed or not by its sense. -/
theorem wellFormed_iff_sense {raw : Text} (clean : '\n' ∉ raw) :
    WellFormed raw ↔ (sense raw).Allowed := by
  rw [wellFormed_iff clean, sense]
  cases classify raw <;> rfl

/-- The name in a header line is that of its sense. -/
theorem header?_eq_sense (raw : Text) :
    header? raw = match sense raw with
      | .header name => some name
      | _ => none := by
  rw [header?, sense]
  cases classify raw <;> rfl

/-- A line of white space is blank. -/
theorem sense_of_allBlank {raw : Text} (blank : AllBlank raw) : sense raw = .blank := by
  rw [sense, classify_of_allBlank blank]

/-- A line with the sense of a comment is a comment line with that text. -/
theorem comment_of_sense {raw whole : Text} (kind : sense raw = .comment whole) :
    isComment raw = true ∧ whole = raw := by
  have shape := classify_shape raw
  unfold sense at kind
  cases found : classify raw with
  | comment text =>
    rw [found] at shape kind
    obtain rfl := Line.comment.inj kind
    exact shape
  | blank => simp [found] at kind
  | header name => simp [found] at kind
  | setting key value => simp [found] at kind
  | unrecognized text => simp [found] at kind

/-- Of two lines of one sense both are comment lines or none is, and comment lines are equal. -/
theorem comment_congr {raw other : Text} (same : sense raw = sense other) :
    isComment raw = isComment other ∧ (isComment raw = true → raw = other) := by
  have keeps : ∀ {one two : Text}, sense one = sense two → isComment one = true →
      isComment two = true ∧ one = two := by
    intro one two equal comment
    refine comment_of_sense (equal.symm.trans ?_)
    rw [sense, classify_of_isComment comment]
  refine ⟨Bool.eq_iff_iff.mpr ⟨fun comment => (keeps same comment).1,
    fun comment => (keeps same.symm comment).1⟩, fun comment => (keeps same comment).2⟩

end Line

/-! ### Texts that are alike -/

namespace Rows

variable {rows other more : List Text} {raw again : Text}

/-- The senses of the lines that are not blank. -/
def senses (rows : List Text) : List Line := (rows.map Line.sense).filter (· ≠ .blank)

/-- What a line states is told by its sense. -/
theorem statement?_eq_sense (above : List Text) (raw : Text) :
    statement? above raw = match Line.sense raw with
      | .blank => (block? above).map fun block =>
        .note (openSection above) block (above.length + 1)
      | .header name => some (.header name (block? above))
      | .setting key value => some (.setting (openSection above) key value (block? above))
      | .comment _ | .unrecognized _ => none := by
  rw [statement?, Line.sense]
  cases Line.classify raw <;> rfl

/-- Whether some lines say and state the same as others, and leave the same open. -/
structure Alike (rows other : List Text) : Prop where
  /-- The senses, but for blank lines. -/
  senses : Rows.senses rows = Rows.senses other
  /-- What is stated, but for the numbers of lines. -/
  stated : (statements rows).map Statement.unnumbered = (statements other).map Statement.unnumbered
  /-- The comment lines right above the end. -/
  run : Rows.run rows = Rows.run other
  /-- The open section. -/
  opened : openSection rows = openSection other

namespace Alike

/-- Lines are alike with themselves. -/
theorem refl (rows : List Text) : Alike rows rows := ⟨rfl, rfl, rfl, rfl⟩

/-- Lines that are alike are alike the other way round. -/
theorem symm (alike : Alike rows other) : Alike other rows :=
  ⟨alike.senses.symm, alike.stated.symm, alike.run.symm, alike.opened.symm⟩

/-- Lines are alike if both are alike with the same third lines. -/
theorem trans (alike : Alike rows other) (further : Alike other more) : Alike rows more :=
  ⟨alike.senses.trans further.senses, alike.stated.trans further.stated,
    alike.run.trans further.run, alike.opened.trans further.opened⟩

/-- One more line of one sense keeps lines alike. -/
theorem concat (alike : Alike rows other) (same : Line.sense raw = Line.sense again) :
    Alike (rows ++ [raw]) (other ++ [again]) where
  senses := by
    rw [Rows.senses, Rows.senses, List.map_append, List.map_append, List.filter_append,
      List.filter_append, List.map_singleton, List.map_singleton, same]
    exact congrArg (· ++ _) alike.senses
  stated := by
    have block : block? rows = block? other := by rw [block?, block?, alike.run]
    have here : (statement? rows raw).toList.map Statement.unnumbered =
        (statement? other again).toList.map Statement.unnumbered := by
      rw [statement?_eq_sense, statement?_eq_sense, same, block, alike.opened]
      cases Line.sense again with
      | blank => cases block? other <;> rfl
      | header name => rfl
      | comment text => rfl
      | setting key value => rfl
      | unrecognized text => rfl
    rw [statements_concat, statements_concat, List.map_append, List.map_append, alike.stated, here]
  run := by
    obtain ⟨together, equal⟩ := Line.comment_congr same
    rw [run_concat, run_concat, alike.run, ← together]
    split
    · rename_i comment
      rw [equal comment]
    · rfl
  opened := by
    rw [openSection_concat, openSection_concat, alike.opened, Line.header?_eq_sense,
      Line.header?_eq_sense, same]

/-- Lines that are the same in both keep lines alike when they are put below. -/
theorem append (alike : Alike rows other) (below : List Text) :
    Alike (rows ++ below) (other ++ below) := by
  induction below using List.reverseRecOn with
  | nil => rwa [List.append_nil, List.append_nil]
  | append_singleton below raw ih =>
    rw [← List.append_assoc, ← List.append_assoc]
    exact ih.concat rfl

/-- A blank line makes no difference unless a comment line stands right above it. -/
theorem blank (free : Rows.run rows = []) (blank : AllBlank raw) : Alike rows (rows ++ [raw]) := by
  have sense := Line.sense_of_allBlank blank
  have noComment : Line.isComment raw = false := Line.isComment_eq_false fun whole kind => by
    rw [Line.classify_of_allBlank blank] at kind
    contradiction
  refine ⟨?_, ?_, ?_, ?_⟩
  · rw [Rows.senses, Rows.senses, List.map_append, List.filter_append, List.map_singleton, sense]
    exact (List.append_nil _).symm
  · have silent : statement? rows raw = none := by
      rw [statement?_eq_sense, sense, block?, free]
      rfl
    rw [statements_concat, silent, Option.toList_none, List.append_nil]
  · rw [run_concat, noComment, free]
    rfl
  · rw [openSection_concat, Line.header?_eq_sense, sense, Option.none_or]

end Alike

end Rows

/-! ### Changes of layout -/

/-- Whether a line is another with other white space around the brackets and the name of a header,
or around the key and the value of a setting whose key is not blank. -/
inductive Line.Respaced (raw spaced : Text) : Prop where
  /-- A header. -/
  | header (name before left right after : Text) (kind : Line.classify raw = .header name)
      (beforeBlank : AllBlank before) (leftBlank : AllBlank left) (rightBlank : AllBlank right)
      (afterBlank : AllBlank after)
      (whole : spaced = before ++ '[' :: (left ++ name ++ right) ++ ']' :: after)
  /-- A setting. -/
  | setting (key value before left right after : Text)
      (kind : Line.classify raw = .setting key value) (keyed : Text.trim key ≠ [])
      (beforeBlank : AllBlank before) (leftBlank : AllBlank left) (rightBlank : AllBlank right)
      (afterBlank : AllBlank after)
      (whole : spaced =
        (before ++ Text.trim key ++ left) ++ '=' :: (right ++ Text.trim value ++ after))

/-- Whether a text is another after one change of its layout. -/
inductive Text.Relaid (content other : Text) : Prop where
  /-- A blank line comes in, not directly below a comment line. -/
  | insert (above below : List Text) (blank : Text) (whole : lines content = above ++ below)
      (after : lines other = above ++ blank :: below) (allBlank : AllBlank blank)
      (free : ∀ row ∈ above.getLast?, Line.isComment row = false)
  /-- A blank line goes that does not stand directly below a comment line. -/
  | delete (above below : List Text) (blank : Text)
      (whole : lines content = above ++ blank :: below) (after : lines other = above ++ below)
      (allBlank : AllBlank blank)
      (free : ∀ row ∈ above.getLast?, Line.isComment row = false)
  /-- White space in a header or a setting changes. -/
  | respace (above below : List Text) (raw spaced : Text)
      (whole : lines content = above ++ raw :: below)
      (after : lines other = above ++ spaced :: below) (respaced : Line.Respaced raw spaced)

/-- Other white space leaves the sense of a line. -/
theorem Line.Respaced.sense_eq {raw spaced : Text} (respaced : Line.Respaced raw spaced)
    (clean : '\n' ∉ spaced) : Line.sense raw = Line.sense spaced := by
  have shape := Line.classify_shape raw
  cases respaced with
  | header name before left right after kind beforeBlank leftBlank rightBlank afterBlank whole =>
    rw [kind] at shape
    obtain ⟨inner, ⟨-, -, -, -, absent, -⟩, rfl⟩ := shape
    have blankFree : ∀ {gap : Text}, AllBlank gap → ']' ∉ gap := fun blank member =>
      absurd (blank ']' member) (by decide)
    have noClose : ']' ∉ left ++ Text.trim inner ++ right := by
      have inside : ']' ∉ Text.trim inner := fun close => absent (Text.mem_of_mem_trim close)
      simp [blankFree leftBlank, blankFree rightBlank, inside]
    have header : Line.HeaderShape spaced (left ++ Text.trim inner ++ right) :=
      ⟨before, after, beforeBlank, afterBlank, noClose, whole⟩
    rw [Line.sense, kind, Line.sense, Line.classify_of_headerShape header,
      Text.trim_between leftBlank rightBlank, Text.trimmed_trim]
  | setting key value before left right after kind keyed beforeBlank leftBlank rightBlank
      afterBlank whole =>
    rw [kind] at shape
    obtain ⟨⟨chars, split⟩, plain, -, -⟩ := shape
    have trimmedKey : Text.trim (before ++ Text.trim key ++ left) = Text.trim key := by
      rw [Text.trim_between beforeBlank leftBlank, Text.trimmed_trim]
    have trimmedValue : Text.trim (right ++ Text.trim value ++ after) = Text.trim value := by
      rw [Text.trim_between rightBlank afterBlank, Text.trimmed_trim]
    have blankChars : ∀ {gap : Text}, AllBlank gap → ∀ c ∈ gap, c ≠ '#' ∧ c ≠ ';' ∧ c ≠ '=' := by
      intro gap blank c member
      have white := blank c member
      refine ⟨?_, ?_, ?_⟩ <;> rintro rfl <;> exact absurd white (by decide)
    have setting : Line.SettingShape spaced (before ++ Text.trim key ++ left)
        (right ++ Text.trim value ++ after) := by
      refine ⟨fun c member => ?_, whole⟩
      rcases List.mem_append.mp member with front | back
      · rcases List.mem_append.mp front with gap | inKey
        · exact blankChars beforeBlank c gap
        · exact chars c (Text.mem_of_mem_trim inKey)
      · exact blankChars leftBlank c back
    -- Whether a line with an equals sign is a header depends on its trimmed parts alone.
    have noHeader : ∀ name, ¬ Line.HeaderShape spaced name := by
      rw [split, ← not_exists, Line.exists_headerShape_iff] at plain
      rw [whole, ← not_exists, Line.exists_headerShape_iff, trimmedKey, trimmedValue]
      exact plain
    have some : before ++ Text.trim key ++ left ≠ [] := by simp [keyed]
    have noFeed : '\n' ∉ right ++ Text.trim value ++ after := by
      rw [whole] at clean
      exact fun feed => clean (List.mem_append_right _ (List.mem_cons_of_mem _ feed))
    rw [Line.sense, kind, Line.sense,
      Line.classify_of_settingShape setting noHeader some noFeed]
    simp only [trimmedKey, trimmedValue]

namespace Rows

/-- There is no comment block above the end unless a comment line stands there. -/
theorem run_eq_nil {rows : List Text} (free : ∀ row ∈ rows.getLast?, Line.isComment row = false) :
    run rows = [] := by
  rcases List.eq_nil_or_concat rows with rfl | ⟨front, row, rfl⟩
  · rfl
  · rw [List.concat_eq_append] at free ⊢
    rw [run_concat, free row (by simp), if_neg Bool.false_ne_true]

/-- A change of layout keeps texts alike. -/
theorem alike_of_relaid {content other : Text} (relaid : Text.Relaid content other) :
    Alike (Text.lines content) (Text.lines other) := by
  have inserts : ∀ (above below : List Text) {blank : Text}, AllBlank blank →
      (∀ row ∈ above.getLast?, Line.isComment row = false) →
      Alike (above ++ below) (above ++ blank :: below) := by
    intro above below blank allBlank free
    rw [List.append_cons]
    exact (Alike.blank (run_eq_nil free) allBlank).append below
  cases relaid with
  | insert above below blank whole after allBlank free =>
    rw [whole, after]
    exact inserts above below allBlank free
  | delete above below blank whole after allBlank free =>
    rw [whole, after]
    exact (inserts above below allBlank free).symm
  | respace above below raw spaced whole after respaced =>
    have clean : '\n' ∉ spaced := Text.not_mem_of_mem_lines (by rw [after]; simp)
    rw [whole, after, List.append_cons, List.append_cons above spaced]
    exact ((Alike.refl above).concat (respaced.sense_eq clean)).append below

/-- Any number of changes of layout keeps texts alike. -/
theorem alike_of_relaid_many {content other : Text}
    (changes : Relation.ReflTransGen Text.Relaid content other) :
    Alike (Text.lines content) (Text.lines other) := by
  induction changes with
  | refl => exact .refl _
  | tail _ change ih => exact ih.trans (alike_of_relaid change)

/-! ### What comes of texts that are alike -/

/-- The first element that fails a test has the same place and is the same in equal lists. -/
theorem first_failing_unique {α : Type} {test : α → Prop} {front rest back tail : List α} {a b : α}
    (same : front ++ a :: rest = back ++ b :: tail) (passed : ∀ c ∈ front, test c)
    (failed : ¬ test a) (passedAgain : ∀ c ∈ back, test c) (failedAgain : ¬ test b) :
    front = back ∧ a = b := by
  induction front generalizing back with
  | nil =>
    cases back with
    | nil => exact ⟨rfl, (List.cons.inj same).1⟩
    | cons c back =>
      obtain ⟨rfl, -⟩ := List.cons.inj same
      exact absurd (passedAgain a List.mem_cons_self) failed
  | cons d front ih =>
    cases back with
    | nil =>
      obtain ⟨rfl, -⟩ := List.cons.inj same
      exact absurd (passed d List.mem_cons_self) failedAgain
    | cons c back =>
      obtain ⟨rfl, further⟩ := List.cons.inj same
      obtain ⟨rfl, equal⟩ := ih further (fun e member => passed e (List.mem_cons_of_mem d member))
        fun e member => passedAgain e (List.mem_cons_of_mem d member)
      exact ⟨rfl, equal⟩

/-- Lines are well formed together when the senses are allowed. -/
theorem wellFormed_iff_senses {rows : List Text} (clean : ∀ row ∈ rows, '\n' ∉ row) :
    (∀ row ∈ rows, Line.WellFormed row) ↔ ∀ one ∈ senses rows, one.Allowed := by
  constructor
  · intro wellFormed one member
    obtain ⟨row, inside, rfl⟩ := List.mem_map.mp (List.mem_of_mem_filter member)
    exact (Line.wellFormed_iff_sense (clean row inside)).mp (wellFormed row inside)
  · intro allowed row inside
    rw [Line.wellFormed_iff_sense (clean row inside)]
    by_cases blank : Line.sense row = .blank
    · rw [blank]
      trivial
    · exact allowed _ (List.mem_filter.mpr ⟨List.mem_map_of_mem inside, by simpa using blank⟩)

/-- The senses around a line that is not well formed. -/
theorem senses_of_offence {before after : List Text} {raw : Text} (clean : '\n' ∉ raw)
    (offends : ¬ Line.WellFormed raw) :
    senses (before ++ raw :: after) = senses before ++ Line.sense raw :: senses after := by
  have solid : Line.sense raw ≠ .blank := by
    intro blank
    rw [Line.wellFormed_iff_sense clean, blank] at offends
    exact offends trivial
  rw [senses, List.map_append, List.filter_append, List.map_cons,
    List.filter_cons_of_pos (by simpa using solid)]
  rfl

end Rows

namespace Document

/-- Whether two texts come to the same in a new document, but for layout: both are read to their
ends into documents that are equal up to made-up numbers, or both are at fault at lines of one
sense, below lines of the same senses. -/
inductive ReadAlike (origin content other : Text) : Prop where
  /-- Both are accepted. -/
  | accepted (report again : Report)
      (read : (empty.parse origin content).result = .ok report)
      (readAgain : (empty.parse origin other).result = .ok again)
      (same : (empty.parse origin content).document.unnumbered =
        (empty.parse origin other).document.unnumbered)
  /-- Both are at fault, and the lines that are not blank correspond up to the one at fault. -/
  | refused (above below aboveAgain belowAgain : List Text) (raw rawAgain : Text)
      (whole : Text.lines content = above ++ raw :: below)
      (wholeAgain : Text.lines other = aboveAgain ++ rawAgain :: belowAgain)
      (fault : (empty.parse origin content).result =
        .error (.badLine origin (above.length + 1) raw))
      (faultAgain : (empty.parse origin other).result =
        .error (.badLine origin (aboveAgain.length + 1) rawAgain))
      (corresponding : Rows.senses above = Rows.senses aboveAgain)
      (same : Line.sense raw = Line.sense rawAgain)

/-- Texts that are alike come to the same. -/
theorem readAlike_of_alike (origin : Text) {content other : Text}
    (alike : Rows.Alike (Text.lines content) (Text.lines other)) :
    ReadAlike origin content other := by
  have clean : ∀ text, ∀ row ∈ Text.lines text, '\n' ∉ row :=
    fun _ _ member => Text.not_mem_of_mem_lines member
  have together : (∀ row ∈ Text.lines content, Line.WellFormed row) ↔
      ∀ row ∈ Text.lines other, Line.WellFormed row := by
    rw [Rows.wellFormed_iff_senses (clean content), Rows.wellFormed_iff_senses (clean other),
      alike.senses]
  rcases wellFormed_or_exists_offence (Text.lines content) with
    wellFormed | ⟨above, raw, below, whole, wellFormed, offends⟩
  · have wellFormedAgain := together.mp wellFormed
    obtain ⟨read, stored, -⟩ := parse_of_wellFormed sound_empty origin wellFormed
    obtain ⟨readAgain, storedAgain, -⟩ := parse_of_wellFormed sound_empty origin wellFormedAgain
    refine .accepted _ _ read readAgain ?_
    rw [stored, storedAgain, Rows.wholeStatements, Rows.wholeStatements,
      Rows.acceptAll_statements (Rows.clean_whole content) (Rows.wellFormed_whole wellFormed),
      Rows.acceptAll_statements (Rows.clean_whole other) (Rows.wellFormed_whole wellFormedAgain),
      Rows.unnumbered_document (Rows.clean_whole content) (Rows.wellFormed_whole wellFormed),
      Rows.unnumbered_document (Rows.clean_whole other) (Rows.wellFormed_whole wellFormedAgain),
      (alike.append [[]]).stated]
  · rcases wellFormed_or_exists_offence (Text.lines other) with
      all | ⟨aboveAgain, rawAgain, belowAgain, wholeAgain, wellFormedAgain, offendsAgain⟩
    · exact absurd (together.mpr all raw (by simp [whole])) offends
    have fault := (parse_of_offence sound_empty origin whole wellFormed offends).1
    have faultAgain := (parse_of_offence sound_empty origin wholeAgain wellFormedAgain
      offendsAgain).1
    have rowClean : ∀ row ∈ above ++ raw :: below, '\n' ∉ row := whole ▸ clean content
    have rowCleanAgain : ∀ row ∈ aboveAgain ++ rawAgain :: belowAgain, '\n' ∉ row :=
      wholeAgain ▸ clean other
    -- Each text is at fault at its first line that is not allowed, and the senses, which are the
    -- same in both, tell which one that is.
    have senses := alike.senses
    rw [whole, wholeAgain, Rows.senses_of_offence (rowClean raw (by simp)) offends,
      Rows.senses_of_offence (rowCleanAgain rawAgain (by simp)) offendsAgain] at senses
    rw [Rows.wellFormed_iff_senses fun row member => rowClean row (by simp [member])]
      at wellFormed
    rw [Rows.wellFormed_iff_senses fun row member => rowCleanAgain row (by simp [member])]
      at wellFormedAgain
    rw [Line.wellFormed_iff_sense (rowClean raw (by simp))] at offends
    rw [Line.wellFormed_iff_sense (rowCleanAgain rawAgain (by simp))] at offendsAgain
    obtain ⟨corresponding, same⟩ :=
      Rows.first_failing_unique senses wellFormed offends wellFormedAgain offendsAgain
    exact .refused above below aboveAgain belowAgain raw rawAgain whole wholeAgain fault faultAgain
      corresponding same

end Document

/-! ### Carriage returns before line feeds -/

namespace Text

/-- A text with a carriage return in front of every line feed. -/
def withReturns (text : Text) : Text :=
  text.flatMap fun c => if c = '\n' then ['\r', '\n'] else [c]

/-- A text without line feeds gets no carriage returns. -/
theorem withReturns_of_not_mem {text : Text} (clean : '\n' ∉ text) : withReturns text = text := by
  have single : ∀ c ∈ text, (if c = '\n' then ['\r', '\n'] else [c]) = [c] := by
    intro c member
    refine if_neg ?_
    rintro rfl
    exact clean member
  rw [withReturns, List.flatMap_congr single, List.flatMap_singleton']

/-- A line ends in a carriage return and a line feed. -/
theorem withReturns_append_cons {row : Text} (clean : '\n' ∉ row) (rest : Text) :
    withReturns (row ++ '\n' :: rest) = (row ++ ['\r']) ++ '\n' :: withReturns rest := by
  have front := withReturns_of_not_mem clean
  unfold withReturns at front ⊢
  rw [List.flatMap_append, front, List.flatMap_cons, if_pos rfl]
  simp

/-- Carriage returns in front of line feeds belong to no line. -/
theorem lines_withReturns {text : Text} (plain : '\r' ∉ text) :
    lines (withReturns text) = lines text := by
  induction size : text.length using Nat.strong_induction_on generalizing text with
  | _ length ih =>
    by_cases feed : '\n' ∈ text
    · obtain ⟨row, rest, rfl, clean⟩ := List.eq_append_cons_of_mem feed
      have plainRow : '\r' ∉ row := fun back => plain (by simp [back])
      have plainRest : '\r' ∉ rest := fun back => plain (by simp [back])
      have cleanRow : '\n' ∉ row ++ ['\r'] := by simpa using clean
      have shorter : rest.length < length := by simp [← size]; omega
      have dropped : dropReturn (row ++ ['\r']) = row := by simp [dropReturn]
      have kept : dropReturn row = row :=
        dropReturn_eq_self_iff.mpr fun ends => plainRow (List.mem_of_getLast? ends)
      rw [withReturns_append_cons clean, lines_append_cons cleanRow, lines_append_cons clean,
        dropped, kept, ih rest.length shorter plainRest rfl]
    · rw [withReturns_of_not_mem feed]

end Text

namespace Document

/-- Layout does not matter. However often blank lines come in or go, unless directly below comment
lines, and white space changes around the parts of headers and of settings with a key, the text
comes to the same in a new document: both are accepted, and the documents are equal up to the
numbers in made-up keys, or both are at fault at the corresponding line. A text without carriage
returns comes to exactly the same, the report included, with one in front of every line feed. -/
theorem parse_ignores_layout (origin : Text) :
    (∀ content other, Relation.ReflTransGen Text.Relaid content other →
      ReadAlike origin content other) ∧
    ∀ content, '\r' ∉ content → ∀ document : Document,
      document.parse origin (Text.withReturns content) = document.parse origin content := by
  constructor
  · intro content other changes
    exact readAlike_of_alike origin (Rows.alike_of_relaid_many changes)
  · intro content plain document
    rw [parse, parse, Text.lines_withReturns plain]

/-- A blank line above a comment block of its own and white space around a name and a key change
the number in a made-up key and nothing else. -/
theorem parse_ignores_layout_shifted_block :
    let content := "k=1\n# a\n\n[s]\nv = 2".toList
    let other := "k=1\n\n# a\n\n [ s ]\nv=2 ".toList
    (empty.parse [] content).document.unnumbered = (empty.parse [] other).document.unnumbered ∧
      (empty.parse [] content).document ≠ (empty.parse [] other).document ∧
      (empty.parse [] (Text.withReturns content)).result = .ok ⟨5, 1, 2, []⟩ := by
  intro content other
  have read : (empty.parse [] content).result = .ok ⟨5, 1, 2, []⟩ := rfl
  have space : AllBlank [' '] := by simp [AllBlank, Text.isBlank]
  have line : Text.Relaid content "k=1\n\n# a\n\n[s]\nv = 2".toList :=
    .insert ["k=1".toList] ["# a".toList, [], "[s]".toList, "v = 2".toList] [] rfl rfl
      Text.allBlank_nil (by decide)
  have name : Text.Relaid "k=1\n\n# a\n\n[s]\nv = 2".toList
      "k=1\n\n# a\n\n [ s ]\nv = 2".toList :=
    .respace ["k=1".toList, [], "# a".toList, []] ["v = 2".toList] "[s]".toList " [ s ]".toList
      rfl rfl (.header "s".toList [' '] [' '] [' '] [] rfl space space space Text.allBlank_nil rfl)
  have value : Text.Relaid "k=1\n\n# a\n\n [ s ]\nv = 2".toList other :=
    .respace ["k=1".toList, [], "# a".toList, [], " [ s ]".toList] [] "v = 2".toList
      "v=2 ".toList rfl rfl (.setting "v ".toList " 2".toList [] [] [] [' '] rfl (by decide)
        Text.allBlank_nil Text.allBlank_nil Text.allBlank_nil space rfl)
  refine ⟨?_, by decide +kernel, ?_⟩
  · cases (parse_ignores_layout []).1 content other (.tail (.tail (.single line) name) value) with
    | accepted report again read readAgain same => exact same
    | refused above below aboveAgain belowAgain raw rawAgain whole wholeAgain fault faultAgain
        corresponding same => exact absurd (read.symm.trans fault) (by simp)
  · rw [(parse_ignores_layout []).2 content (by decide) empty]
    exact read

end Document

end IniKeeper
