import IniKeeper.Line
import IniKeeper.Proofs.Trimming

/-!
# Shapes of lines

The shape of a line says how its text is put together, without saying how it is taken apart. A
header is a bracketed name between white space, a comment begins with a marker and a gap, and a
setting is cut at its first equals sign. Each kind that a line is given stands for one shape, the
parts named by the kind are those of the shape, and no line has two of them.
-/

namespace IniKeeper

namespace Line

open Text (AllBlank)

/-- A name in brackets between white space, where the name holds no closing bracket. -/
def HeaderShape (text name : Text) : Prop :=
  ∃ before after, AllBlank before ∧ AllBlank after ∧ ']' ∉ name ∧
    text = before ++ '[' :: name ++ ']' :: after

/-- A marker and a space or tab, and then any text. -/
def CommentShape (text : Text) : Prop :=
  ∃ marker gap rest, (marker = '#' ∨ marker = ';') ∧ (gap = ' ' ∨ gap = '\t') ∧
    text = marker :: gap :: rest

/-- A key and a value around an equals sign, where neither marker nor equals sign stands in the
key. -/
def SettingShape (text key value : Text) : Prop :=
  (∀ c ∈ key, c ≠ '#' ∧ c ≠ ';' ∧ c ≠ '=') ∧ text = key ++ '=' :: value

/-- The lines that a text may consist of. -/
inductive WellFormed (text : Text) : Prop where
  /-- Only white space. -/
  | blank (blank : AllBlank text)
  /-- A header with a name that is not blank and has no carriage return inside. -/
  | header (name : Text) (shape : HeaderShape text name) (named : Text.trim name ≠ [])
      (unbroken : '\r' ∉ Text.trim name)
  /-- A comment line. -/
  | comment (shape : CommentShape text)
  /-- A setting that is no header, with a key that is not blank, and with no carriage return inside
  its key or its value. -/
  | setting (key value : Text) (shape : SettingShape text key value)
      (plain : ∀ name, ¬ HeaderShape text name) (keyed : Text.trim key ≠ [])
      (keyUnbroken : '\r' ∉ Text.trim key) (valueUnbroken : '\r' ∉ Text.trim value)

/-! ### Characters -/

/-- The markers are the number sign and the semicolon. -/
theorem isMarker_iff {c : Char} : isMarker c = true ↔ c = '#' ∨ c = ';' := by
  simp [isMarker]

/-- Key characters are those that are neither marker nor equals sign. -/
theorem isKeyChar_iff {c : Char} : isKeyChar c = true ↔ c ≠ '#' ∧ c ≠ ';' ∧ c ≠ '=' := by
  simp [isKeyChar, isMarker, and_assoc]

/-- A marker is no white space. -/
theorem isBlank_of_isMarker {c : Char} (marker : isMarker c = true) : Text.isBlank c = false := by
  rcases isMarker_iff.mp marker with rfl | rfl <;> decide

/-! ### Headers -/

/-- What follows an opening bracket closes a header when the first closing bracket has only white
space behind it. -/
theorem closeHeader?_eq_some_iff {text name : Text} :
    closeHeader? text = some name ↔
      ∃ after, AllBlank after ∧ ']' ∉ name ∧ text = name ++ ']' :: after := by
  constructor
  · intro closed
    unfold closeHeader? at closed
    split at closed
    · contradiction
    · rename_i c after tail
      split at closed
      · rename_i blank
        obtain rfl := Option.some.inj closed
        obtain rfl : c = ']' := by
          have head := List.head?_dropWhile_not (· != ']') text
          rw [tail] at head
          simpa using head
        refine ⟨after, Text.all_isBlank_iff.mp blank, ?_, ?_⟩
        · intro inside
          have kept := List.all_eq_true.mp (List.all_takeWhile (l := text)) ']' inside
          simp at kept
        · rw [← tail]
          exact List.takeWhile_append_dropWhile.symm
      · contradiction
  · rintro ⟨after, blank, absent, rfl⟩
    have keep : ∀ c ∈ name, (c != ']') = true := by
      intro c member
      simp only [bne_iff_ne, ne_eq]
      rintro rfl
      exact absent member
    simp [closeHeader?, List.dropWhile_append_of_pos keep, List.takeWhile_append_of_pos keep,
      Text.all_isBlank_iff.mpr blank]

/-- The name of a line is taken out exactly of lines of header shape. -/
theorem headerName?_eq_some_iff {text name : Text} :
    headerName? text = some name ↔ HeaderShape text name := by
  have opening : Text.isBlank '[' = false := by decide
  constructor
  · intro found
    unfold headerName? at found
    split at found
    · rename_i rest start
      obtain ⟨after, afterBlank, absent, rfl⟩ := closeHeader?_eq_some_iff.mp found
      obtain ⟨before, beforeBlank, split⟩ := Text.exists_trimStart text
      rw [start] at split
      exact ⟨before, after, beforeBlank, afterBlank, absent, by rw [split]; simp⟩
    · contradiction
  · rintro ⟨before, after, beforeBlank, afterBlank, absent, rfl⟩
    have start : Text.trimStart (before ++ '[' :: name ++ ']' :: after) =
        '[' :: (name ++ ']' :: after) := by
      rw [List.append_assoc, Text.trimStart_append beforeBlank, List.cons_append,
        Text.trimStart_cons opening]
    rw [headerName?, start]
    exact closeHeader?_eq_some_iff.mpr ⟨after, afterBlank, absent, rfl⟩

/-- A line without a name to take out has no header shape. -/
theorem headerName?_eq_none_iff {text : Text} :
    headerName? text = none ↔ ∀ name, ¬ HeaderShape text name := by
  simp only [← headerName?_eq_some_iff, Option.eq_none_iff_forall_ne_some, ne_eq]

/-- A header is not blank. -/
theorem HeaderShape.not_allBlank {text name : Text} (shape : HeaderShape text name) :
    ¬ AllBlank text := by
  obtain ⟨before, after, -, -, -, rfl⟩ := shape
  intro blank
  have bracket := blank '[' (by simp)
  exact absurd bracket (by decide)

/-- A line has header shape exactly when it is a bracketed name once it is trimmed. -/
theorem headerShape_iff_trim {text name : Text} :
    HeaderShape text name ↔ ']' ∉ name ∧ Text.trim text = '[' :: name ++ [']'] := by
  have opening : Text.isBlank '[' = false := by decide
  have closing : Text.isBlank ']' = false := by decide
  constructor
  · rintro ⟨before, after, beforeBlank, afterBlank, absent, rfl⟩
    refine ⟨absent, ?_⟩
    rw [Text.trim_append_cons closing, Text.trimEnd_of_allBlank afterBlank,
      Text.trimStart_append_cons opening, Text.trimStart_of_allBlank beforeBlank]
    rfl
  · rintro ⟨absent, trimmed⟩
    obtain ⟨before, after, beforeBlank, afterBlank, split⟩ := Text.exists_trim text
    exact ⟨before, after, beforeBlank, afterBlank, absent, by rw [split, trimmed]; simp⟩

/-- A key that opens a bracket and a value that closes it: written as one line they are a header. -/
def Bracketed (key value : Text) : Prop :=
  ∃ rest front, key = '[' :: rest ∧ value = front ++ [']'] ∧ ']' ∉ rest ∧ ']' ∉ front

/-- A line with an equals sign is a header exactly when the trimmed parts around the sign open and
close a bracket, so white space around them does not matter. -/
theorem exists_headerShape_iff {key value : Text} :
    (∃ name, HeaderShape (key ++ '=' :: value) name) ↔
      Bracketed (Text.trim key) (Text.trim value) := by
  have sign : Text.isBlank '=' = false := by decide
  obtain ⟨after, afterBlank, start⟩ := Text.exists_trimStart_eq key
  obtain ⟨before, beforeBlank, stop⟩ := Text.exists_trimEnd_eq value
  have blankFree : ∀ {gap : Text}, AllBlank gap → ']' ∉ gap := fun blank member =>
    absurd (blank ']' member) (by decide)
  simp only [headerShape_iff_trim, Text.trim_append_cons sign, start, stop]
  constructor
  · rintro ⟨name, absent, split⟩
    cases opened : Text.trim key with
    | nil =>
      -- A blank key leaves either nothing or white space before the sign, never a bracket.
      have blank := Text.trim_eq_nil_iff.mp opened
      rw [opened, List.nil_append] at split start
      rw [Text.trimStart_of_allBlank blank] at start
      rw [← start] at split
      simp at split
    | cons c rest =>
      cases List.eq_nil_or_concat (Text.trim value) with
      | inl closed =>
        have blank := Text.trim_eq_nil_iff.mp closed
        rw [closed, List.append_nil] at split stop
        rw [Text.trimEnd_of_allBlank blank] at stop
        rw [← stop] at split
        have last := congrArg List.getLast? split
        rw [List.getLast?_concat, List.getLast?_concat] at last
        simp at last
      | inr closed =>
        obtain ⟨front, d, closed⟩ := closed
        rw [List.concat_eq_append] at closed
        rw [opened, closed] at split
        have heads := List.head_eq_of_cons_eq split
        have tails := List.tail_eq_of_cons_eq split
        have shape : (rest ++ after ++ '=' :: (before ++ front)) ++ [d] = name ++ [']'] := by
          simpa using tails
        obtain ⟨inner, last⟩ := List.append_inj' shape rfl
        rw [← inner] at absent
        simp only [List.mem_append, List.mem_cons, not_or] at absent
        refine ⟨rest, front, by rw [heads], ?_, absent.1.1, absent.2.2.2⟩
        rw [closed, List.cons.inj last |>.1]
  · rintro ⟨rest, front, opened, closed, restFree, frontFree⟩
    refine ⟨rest ++ after ++ '=' :: (before ++ front), ?_, by rw [opened, closed]; simp⟩
    simp [restFree, frontFree, blankFree afterBlank, blankFree beforeBlank]

/-! ### Comments -/

/-- The test for comment lines finds the lines of comment shape without a line feed. -/
theorem isComment_iff {text : Text} :
    isComment text = true ↔ CommentShape text ∧ '\n' ∉ text := by
  constructor
  · intro comment
    match text, comment with
    | marker :: gap :: rest, comment =>
      simp only [isComment, Bool.and_eq_true, Bool.or_eq_true, beq_iff_eq, Bool.not_eq_true',
        List.contains_eq_mem, decide_eq_false_iff_not] at comment
      obtain ⟨⟨first, second⟩, clean⟩ := comment
      have named := isMarker_iff.mp first
      refine ⟨⟨marker, gap, rest, named, second, rfl⟩, ?_⟩
      intro feed
      rcases List.mem_cons.mp feed with rfl | feed
      · simp at named
      · rcases List.mem_cons.mp feed with rfl | feed
        · simp at second
        · exact clean feed
  · rintro ⟨⟨marker, gap, rest, first, second, rfl⟩, clean⟩
    have inside : '\n' ∉ rest := fun feed =>
      clean (List.mem_cons_of_mem marker (List.mem_cons_of_mem gap feed))
    simp [isComment, isMarker_iff.mpr first, second, inside]

/-- A comment line begins with a marker. -/
theorem exists_marker_of_isComment {text : Text} (comment : isComment text = true) :
    ∃ marker rest, isMarker marker = true ∧ text = marker :: rest := by
  obtain ⟨⟨marker, gap, rest, first, -, rfl⟩, -⟩ := isComment_iff.mp comment
  exact ⟨marker, gap :: rest, isMarker_iff.mpr first, rfl⟩

/-- A comment line is neither blank nor a header. -/
theorem headerName?_of_isComment {text : Text} (comment : isComment text = true) :
    ¬ AllBlank text ∧ headerName? text = none := by
  obtain ⟨marker, rest, first, rfl⟩ := exists_marker_of_isComment comment
  have solid := isBlank_of_isMarker first
  constructor
  · intro blank
    have here := blank marker List.mem_cons_self
    rw [solid] at here
    contradiction
  · rw [headerName?, Text.trimStart_cons solid]
    rcases isMarker_iff.mp first with rfl | rfl <;> rfl

/-! ### Settings -/

/-- Key and value are taken out exactly of lines of setting shape whose key is not empty and whose
value has no line feed. -/
theorem settingParts?_eq_some_iff {text key value : Text} :
    settingParts? text = some (key, value) ↔
      SettingShape text key value ∧ key ≠ [] ∧ '\n' ∉ value := by
  constructor
  · intro parts
    unfold settingParts? at parts
    split at parts
    · rename_i c key' value' taken left
      split at parts
      · contradiction
      · rename_i clean
        simp only [Option.some.injEq, Prod.mk.injEq] at parts
        obtain ⟨rfl, rfl⟩ := parts
        refine ⟨⟨fun d member => ?_, ?_⟩, List.cons_ne_nil c key', by simpa using clean⟩
        · rw [← taken] at member
          have kept := List.all_eq_true.mp List.all_takeWhile d member
          exact isKeyChar_iff.mp kept
        · rw [← taken, ← left]
          exact List.takeWhile_append_dropWhile.symm
    · contradiction
  · rintro ⟨⟨chars, rfl⟩, some, clean⟩
    have keep : ∀ c ∈ key, isKeyChar c = true := fun c member => isKeyChar_iff.mpr (chars c member)
    have stop : isKeyChar '=' = false := by decide
    cases key with
    | nil => exact absurd rfl some
    | cons c rest =>
      have taken : ((c :: rest) ++ '=' :: value).takeWhile isKeyChar = c :: rest := by
        rw [List.takeWhile_append_of_pos keep, List.takeWhile_cons_of_neg (by simp [stop]),
          List.append_nil]
      have left : ((c :: rest) ++ '=' :: value).dropWhile isKeyChar = '=' :: value := by
        rw [List.dropWhile_append_of_pos keep, List.dropWhile_cons_of_neg (by simp [stop])]
      unfold settingParts?
      rw [taken, left]
      simp [clean]

/-- A setting is not blank. -/
theorem SettingShape.not_allBlank {text key value : Text} (shape : SettingShape text key value) :
    ¬ AllBlank text := by
  obtain ⟨-, rfl⟩ := shape
  intro blank
  have sign := blank '=' (by simp)
  exact absurd sign (by decide)

/-- A line has at most one setting shape. -/
theorem SettingShape.unique {text key value other rest : Text}
    (shape : SettingShape text key value) (again : SettingShape text other rest) :
    key = other ∧ value = rest := by
  have cut : ∀ {front back : Text}, SettingShape text front back →
      text.takeWhile (· != '=') = front ∧ text.dropWhile (· != '=') = '=' :: back := by
    rintro front back ⟨chars, rfl⟩
    have keep : ∀ c ∈ front, (c != '=') = true := fun c member => by simp [(chars c member).2.2]
    simp [List.takeWhile_append_of_pos keep, List.dropWhile_append_of_pos keep]
  obtain ⟨key_eq, value_eq⟩ := cut shape
  obtain ⟨other_eq, rest_eq⟩ := cut again
  rw [key_eq] at other_eq
  rw [value_eq] at rest_eq
  exact ⟨other_eq, List.tail_eq_of_cons_eq rest_eq⟩

/-! ### Kinds -/

/-- The blank lines are those of white space. -/
theorem classify_of_allBlank {text : Text} (blank : AllBlank text) : classify text = .blank := by
  rw [classify, if_pos (Text.all_isBlank_iff.mpr blank)]

/-- A line of header shape is a header with the trimmed name. -/
theorem classify_of_headerShape {text name : Text} (shape : HeaderShape text name) :
    classify text = .header (Text.trim name) := by
  have solid : ¬ text.all Text.isBlank = true := fun blank =>
    shape.not_allBlank (Text.all_isBlank_iff.mp blank)
  rw [classify, if_neg solid, headerName?_eq_some_iff.mpr shape]

/-- A comment line is a comment with its whole text. -/
theorem classify_of_isComment {text : Text} (isComment : isComment text = true) :
    classify text = .comment text := by
  obtain ⟨solid, plain⟩ := headerName?_of_isComment isComment
  have notAll : ¬ text.all Text.isBlank = true := fun blank =>
    solid (Text.all_isBlank_iff.mp blank)
  rw [classify, if_neg notAll, plain]
  simp only [classifyBody, if_pos isComment]

/-- A line of setting shape that is no header is a setting. -/
theorem classify_of_settingShape {text key value : Text} (shape : SettingShape text key value)
    (plain : ∀ name, ¬ HeaderShape text name) (some : key ≠ []) (clean : '\n' ∉ value) :
    classify text = .setting key value := by
  have notAll : ¬ text.all Text.isBlank = true := fun blank =>
    shape.not_allBlank (Text.all_isBlank_iff.mp blank)
  have noComment : ¬ isComment text = true := by
    intro comment
    obtain ⟨marker, rest, first, split⟩ := exists_marker_of_isComment comment
    obtain ⟨chars, whole⟩ := shape
    cases key with
    | nil => exact absurd rfl some
    | cons c more =>
      rw [split, List.cons_append, List.cons.injEq] at whole
      obtain ⟨noHash, noSemicolon, -⟩ := chars c List.mem_cons_self
      rcases isMarker_iff.mp first with same | same
      · exact noHash (whole.1.symm.trans same)
      · exact noSemicolon (whole.1.symm.trans same)
  rw [classify, if_neg notAll, headerName?_eq_none_iff.mpr plain]
  simp only [classifyBody, if_neg noComment, settingParts?_eq_some_iff.mpr ⟨shape, some, clean⟩]

/-- What the kind of a line says about its text. -/
theorem classify_shape (text : Text) :
    match classify text with
    | .blank => AllBlank text
    | .header name => ∃ inner, HeaderShape text inner ∧ name = Text.trim inner
    | .comment whole => isComment text = true ∧ whole = text
    | .setting key value =>
      SettingShape text key value ∧ (∀ name, ¬ HeaderShape text name) ∧ key ≠ [] ∧ '\n' ∉ value
    | .unrecognized whole =>
      whole = text ∧ ¬ AllBlank text ∧ (∀ name, ¬ HeaderShape text name) ∧
        isComment text = false ∧ settingParts? text = none := by
  by_cases blank : AllBlank text
  · rw [classify_of_allBlank blank]
    exact blank
  cases found : headerName? text with
  | some name =>
    have shape := headerName?_eq_some_iff.mp found
    rw [classify_of_headerShape shape]
    exact ⟨name, shape, rfl⟩
  | none =>
    have plain := headerName?_eq_none_iff.mp found
    cases comment : isComment text with
    | true =>
      rw [classify_of_isComment comment]
      exact ⟨rfl, rfl⟩
    | false =>
      cases parts : settingParts? text with
      | some parts' =>
        obtain ⟨key, value⟩ := parts'
        obtain ⟨shape, some, clean⟩ := settingParts?_eq_some_iff.mp parts
        rw [classify_of_settingShape shape plain some clean]
        exact ⟨shape, plain, some, clean⟩
      | none =>
        have notAll : ¬ text.all Text.isBlank = true := fun all =>
          blank (Text.all_isBlank_iff.mp all)
        have kind : classify text = .unrecognized text := by
          rw [classify, if_neg notAll, found]
          simp [classifyBody, comment, parts]
        rw [kind]
        exact ⟨rfl, blank, plain, rfl, rfl⟩

/-- Only comment lines are comments. -/
theorem isComment_eq_false {text : Text} (other : ∀ whole, classify text ≠ .comment whole) :
    isComment text = false := by
  cases found : isComment text with
  | false => rfl
  | true => exact absurd (classify_of_isComment found) (other text)

/-- Which lines are well formed, by their kind. -/
theorem wellFormed_iff {text : Text} (clean : '\n' ∉ text) :
    WellFormed text ↔
      match classify text with
      | .blank => True
      | .header name => name ≠ [] ∧ '\r' ∉ name
      | .comment _ => True
      | .setting key value =>
        Text.trim key ≠ [] ∧ '\r' ∉ Text.trim key ∧ '\r' ∉ Text.trim value
      | .unrecognized _ => False := by
  constructor
  · intro wellFormed
    cases wellFormed with
    | blank blank => rw [classify_of_allBlank blank]; trivial
    | header name shape named unbroken =>
      rw [classify_of_headerShape shape]
      exact ⟨named, unbroken⟩
    | comment shape => rw [classify_of_isComment (isComment_iff.mpr ⟨shape, clean⟩)]; trivial
    | setting key value shape plain keyed keyUnbroken valueUnbroken =>
      have some : key ≠ [] := by
        rintro rfl
        exact keyed rfl
      have inside : '\n' ∉ value := fun feed => clean (by rw [shape.2]; simp [feed])
      rw [classify_of_settingShape shape plain some inside]
      exact ⟨keyed, keyUnbroken, valueUnbroken⟩
  · intro allowed
    have shape := classify_shape text
    cases kind : classify text with
    | blank =>
      rw [kind] at shape
      exact .blank shape
    | header name =>
      rw [kind] at shape allowed
      obtain ⟨inner, header, rfl⟩ := shape
      exact .header inner header allowed.1 allowed.2
    | comment whole =>
      rw [kind] at shape
      exact .comment (isComment_iff.mp shape.1).1
    | setting key value =>
      rw [kind] at shape allowed
      obtain ⟨setting, plain, -, -⟩ := shape
      exact .setting key value setting plain allowed.1 allowed.2.1 allowed.2.2
    | unrecognized whole =>
      rw [kind] at allowed
      exact allowed.elim

end Line

end IniKeeper
