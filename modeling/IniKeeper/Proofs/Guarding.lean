import IniKeeper.Guard
import IniKeeper.Proofs.LineEnds
import IniKeeper.Proofs.LineShapes

/-!
# What the guards let through

Each guard accepts exactly the texts whose trimmed form may be stored, and gives that form. A key
and a value pass together when, written as one line, they are no header. Comment blocks are the
texts that joining comment lines makes, and a block falls apart into its comment lines again.
-/

namespace IniKeeper

/-- Two attempts in a row succeed when the first does and the second does with its result. -/
theorem Attempt.bind_eq_ok_iff {ε α β : Type} {attempt : Except ε α} {next : α → Except ε β}
    {result : β} :
    (attempt >>= next) = .ok result ↔ ∃ found, attempt = .ok found ∧ next found = .ok result := by
  cases attempt with
  | error reason => simp [bind, Except.bind]
  | ok found => simp [bind, Except.bind]

namespace Guard

open Text (Trimmed)

/-- A key in the form in which it is stored. -/
structure StoredKey (key : Text) : Prop where
  /-- No white space at its ends. -/
  trimmed : Trimmed key
  /-- It is not empty. -/
  named : key ≠ []
  /-- Neither marker nor equals sign stands in it. -/
  chars : ∀ c ∈ key, c ≠ '#' ∧ c ≠ ';' ∧ c ≠ '='
  /-- No line feed stands in it. -/
  noFeed : '\n' ∉ key
  /-- No carriage return stands in it. -/
  noReturn : '\r' ∉ key

/-- A section name in the form in which it is stored. -/
structure StoredName (name : Text) : Prop where
  /-- No white space at its ends. -/
  trimmed : Trimmed name
  /-- It is not empty. -/
  named : name ≠ []
  /-- No closing bracket stands in it. -/
  noClose : ']' ∉ name
  /-- No line feed stands in it. -/
  noFeed : '\n' ∉ name
  /-- No carriage return stands in it. -/
  noReturn : '\r' ∉ name

/-- A value in the form in which it is stored. -/
structure StoredValue (value : Text) : Prop where
  /-- No white space at its ends. -/
  trimmed : Trimmed value
  /-- No line feed stands in it. -/
  noFeed : '\n' ∉ value
  /-- No carriage return stands in it. -/
  noReturn : '\r' ∉ value

/-- A text is unbroken when it has neither line feeds nor carriage returns. -/
theorem isUnbroken_iff {text : Text} : isUnbroken text = true ↔ '\n' ∉ text ∧ '\r' ∉ text := by
  simp only [isUnbroken, isBreak, Bool.not_eq_true', List.any_eq_false, Bool.or_eq_true,
    beq_iff_eq, not_or]
  constructor
  · intro clean
    exact ⟨fun feed => (clean _ feed).1 rfl, fun back => (clean _ back).2 rfl⟩
  · rintro ⟨noFeed, noReturn⟩ c member
    exact ⟨fun same => noFeed (same ▸ member), fun same => noReturn (same ▸ member)⟩

/-- A comment passes exactly when it is valid. -/
theorem comment_eq_ok_iff {text : Option Text} {passed : Unit} :
    comment text = .ok passed ↔ Comment.isValid text = true := by
  unfold comment
  split <;> simp_all

/-- A key passes exactly when its trimmed form may be stored, and is given in that form. -/
theorem key_eq_ok_iff {text stored : Text} :
    key text = .ok stored ↔ stored = Text.trim text ∧ StoredKey stored := by
  have chars : (Text.trim text).all Line.isKeyChar = true ↔
      ∀ c ∈ Text.trim text, c ≠ '#' ∧ c ≠ ';' ∧ c ≠ '=' := by
    simp only [List.all_eq_true, Line.isKeyChar_iff]
  constructor
  · intro passed
    simp only [key] at passed
    split at passed
    · contradiction
    · rename_i named
      split at passed
      · rename_i allowed
        obtain rfl := Except.ok.inj passed
        simp only [Bool.and_eq_true, chars, isUnbroken_iff] at allowed
        exact ⟨rfl, Text.trimmed_trim text, by simpa using named, allowed.1, allowed.2.1,
          allowed.2.2⟩
      · contradiction
  · rintro ⟨rfl, stored⟩
    have named : ¬ (Text.trim text).isEmpty = true := by simpa using stored.named
    have allowed : ((Text.trim text).all Line.isKeyChar && isUnbroken (Text.trim text)) = true := by
      simp only [Bool.and_eq_true, chars, isUnbroken_iff]
      exact ⟨stored.chars, stored.noFeed, stored.noReturn⟩
    simp only [key, if_neg named, if_pos allowed]

/-- A section name passes exactly when its trimmed form may be stored, and is given in that
form. -/
theorem sectionName_eq_ok_iff {text stored : Text} :
    sectionName text = .ok stored ↔ stored = Text.trim text ∧ StoredName stored := by
  constructor
  · intro passed
    simp only [sectionName] at passed
    split at passed
    · contradiction
    · rename_i named
      split at passed
      · rename_i allowed
        obtain rfl := Except.ok.inj passed
        simp only [Bool.and_eq_true, Bool.not_eq_true', List.contains_eq_mem,
          decide_eq_false_iff_not, isUnbroken_iff] at allowed
        exact ⟨rfl, Text.trimmed_trim text, by simpa using named, allowed.1, allowed.2.1,
          allowed.2.2⟩
      · contradiction
  · rintro ⟨rfl, stored⟩
    have named : ¬ (Text.trim text).isEmpty = true := by simpa using stored.named
    have allowed : (!(Text.trim text).contains ']' && isUnbroken (Text.trim text)) = true := by
      simp only [Bool.and_eq_true, Bool.not_eq_true', List.contains_eq_mem,
        decide_eq_false_iff_not, isUnbroken_iff]
      exact ⟨stored.noClose, stored.noFeed, stored.noReturn⟩
    simp only [sectionName, if_neg named, if_pos allowed]

/-- A value passes exactly when it has no line break, and is given trimmed. -/
theorem value_eq_ok_iff {text stored : Text} :
    value text = .ok stored ↔ stored = Text.trim text ∧ '\n' ∉ text ∧ '\r' ∉ text := by
  unfold value
  split
  · rename_i unbroken
    simp only [Except.ok.injEq, isUnbroken_iff.mp unbroken, not_false_eq_true, and_self, and_true]
    exact eq_comm
  · rename_i broken
    simp only [reduceCtorEq, false_iff, not_and]
    intro same noFeed noReturn
    exact broken (isUnbroken_iff.mpr ⟨noFeed, noReturn⟩)

/-- A value without line breaks may be stored once it is trimmed. -/
theorem storedValue_trim {text : Text} (noFeed : '\n' ∉ text) (noReturn : '\r' ∉ text) :
    StoredValue (Text.trim text) :=
  ⟨Text.trimmed_trim text, fun feed => noFeed (Text.mem_of_mem_trim feed),
    fun back => noReturn (Text.mem_of_mem_trim back)⟩

/-- The empty text may be stored as a value. -/
theorem storedValue_nil : StoredValue [] := ⟨rfl, by simp, by simp⟩

/-- The line of a key and a value is read as a setting exactly when key and value do not open and
close a bracket. -/
theorem readsBack_iff {key value : Text} (storedKey : StoredKey key)
    (storedValue : StoredValue value) :
    readsBack key value = true ↔ ¬ Line.Bracketed key value := by
  have bracketed := @Line.exists_headerShape_iff key value
  rw [storedKey.trimmed, storedValue.trimmed] at bracketed
  have shape : Line.SettingShape (key ++ '=' :: value) key value := ⟨storedKey.chars, rfl⟩
  rw [← bracketed, not_exists]
  constructor
  · intro reads name header
    rw [readsBack, Line.classify_of_headerShape header] at reads
    contradiction
  · intro plain
    rw [readsBack, Line.classify_of_settingShape shape plain storedKey.named storedValue.noFeed]

/-- A key and a value pass together exactly when both may be stored and do not make a header. -/
theorem entry_eq_ok_iff {keyText valueText key value : Text} :
    entry keyText valueText = .ok (key, value) ↔
      key = Text.trim keyText ∧ value = Text.trim valueText ∧ StoredKey key ∧
        '\n' ∉ valueText ∧ '\r' ∉ valueText ∧ ¬ Line.Bracketed key value := by
  unfold entry
  simp only [Attempt.bind_eq_ok_iff, key_eq_ok_iff, value_eq_ok_iff]
  constructor
  · rintro ⟨keyFound, ⟨keyIs, keyStored⟩, valueFound, ⟨valueIs, noFeed, noReturn⟩, passed⟩
    split at passed
    · rename_i reads
      simp only [Except.ok.injEq, Prod.mk.injEq] at passed
      obtain ⟨rfl, rfl⟩ := passed
      have valueStored := valueIs ▸ storedValue_trim noFeed noReturn
      exact ⟨keyIs, valueIs, keyStored, noFeed, noReturn,
        (readsBack_iff keyStored valueStored).mp reads⟩
    · contradiction
  · rintro ⟨keyIs, valueIs, keyStored, noFeed, noReturn, plain⟩
    have valueStored := valueIs ▸ storedValue_trim noFeed noReturn
    refine ⟨key, ⟨keyIs, keyStored⟩, value, ⟨valueIs, noFeed, noReturn⟩, ?_⟩
    rw [if_pos ((readsBack_iff keyStored valueStored).mpr plain)]

/-- The name in a header line may be stored unless it is empty or broken by a carriage return. -/
theorem storedName_of_header {raw name : Text} (clean : '\n' ∉ raw)
    (kind : Line.classify raw = .header name) (named : name ≠ []) (unbroken : '\r' ∉ name) :
    StoredName name := by
  have shape := Line.classify_shape raw
  rw [kind] at shape
  obtain ⟨inner, ⟨before, after, -, -, absent, rfl⟩, rfl⟩ := shape
  refine ⟨Text.trimmed_trim inner, named, ?_, ?_, unbroken⟩
  · exact fun close => absent (Text.mem_of_mem_trim close)
  · intro feed
    have inside := Text.mem_of_mem_trim feed
    exact clean (by simp [inside])

/-- The parts of a setting line, once trimmed, may be stored together unless the key is blank or a
carriage return breaks one of them. -/
theorem stored_of_setting {raw key value : Text} (clean : '\n' ∉ raw)
    (kind : Line.classify raw = .setting key value) (keyed : Text.trim key ≠ [])
    (keyUnbroken : '\r' ∉ Text.trim key) (valueUnbroken : '\r' ∉ Text.trim value) :
    StoredKey (Text.trim key) ∧ StoredValue (Text.trim value) ∧
      ¬ Line.Bracketed (Text.trim key) (Text.trim value) := by
  have shape := Line.classify_shape raw
  rw [kind] at shape
  obtain ⟨⟨chars, rfl⟩, plain, -, -⟩ := shape
  have keyFeed : '\n' ∉ key := fun feed => clean (by simp [feed])
  have valueFeed : '\n' ∉ value := fun feed => clean (by simp [feed])
  refine ⟨⟨Text.trimmed_trim key, keyed, ?_, ?_, keyUnbroken⟩,
    ⟨Text.trimmed_trim value, ?_, valueUnbroken⟩, ?_⟩
  · exact fun c member => chars c (Text.mem_of_mem_trim member)
  · exact fun feed => keyFeed (Text.mem_of_mem_trim feed)
  · exact fun feed => valueFeed (Text.mem_of_mem_trim feed)
  · rw [← Line.exists_headerShape_iff, not_exists]
    exact plain

end Guard

namespace Comment

/-- A text is a comment block exactly when each of its lines is a comment line. -/
theorem isBlock_iff {block : Text} :
    isBlock block = true ↔ ∀ row ∈ block.splitOn '\n', Line.isComment row = true := by
  simp only [isBlock, Bool.and_eq_true, Bool.not_eq_true', List.all_eq_true]
  constructor
  · rintro ⟨-, rows⟩
    exact rows
  · intro rows
    refine ⟨?_, rows⟩
    cases block with
    | nil =>
      have empty := rows [] (by simp [List.splitOn_nil])
      simp [Line.isComment] at empty
    | cons c rest => rfl

/-- Joined comment lines are a comment block. -/
theorem isBlock_joinLines {rows : List Text} (comments : ∀ row ∈ rows, Line.isComment row = true)
    (some : rows ≠ []) : isBlock (Text.joinLines rows) = true := by
  have clean : ∀ row ∈ rows, '\n' ∉ row := fun row member =>
    (Line.isComment_iff.mp (comments row member)).2
  rw [isBlock_iff, Text.splitOn_joinLines clean some]
  exact comments

end Comment

end IniKeeper
