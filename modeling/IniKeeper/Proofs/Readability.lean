import IniKeeper.Proofs.Rendering

/-!
# Guards and the reader

The guards look at texts and the reader looks at lines. For texts without line breaks they agree: a
key passes with a value exactly when the line made of the two is read as that setting, and a section
name passes exactly when its line is read as the header of that section. The guard only looks at the
line without spaces beside the equals sign, so it is proved as well that the padded line is read in
the same way.
-/

namespace IniKeeper

/-- A line is read as the setting of a value under a key, both of them trimmed. -/
def Line.ReadsAs (line key value : Text) : Prop :=
  ∃ keyText valueText, Line.classify line = .setting keyText valueText ∧
    Text.trim keyText = key ∧ Text.trim valueText = value

namespace Guard

/-- A line with nothing in front of its equals sign is no setting. -/
theorem ne_nil_of_readsAs {key value other rest : Text}
    (reads : Line.ReadsAs (key ++ '=' :: value) other rest) : key ≠ [] := by
  obtain ⟨keyText, valueText, kind, -, -⟩ := reads
  have shape := Line.classify_shape (key ++ '=' :: value)
  rw [kind] at shape
  obtain ⟨setting, -, some, -⟩ := shape
  rintro rfl
  have bare : Line.SettingShape ([] ++ '=' :: value) [] value :=
    ⟨fun c member => absurd member List.not_mem_nil, rfl⟩
  exact some (setting.unique bare).1

/-- A key and a value are read from the line made of the two exactly when they may be stored
together. -/
theorem readsAs_iff {key value : Text} (noFeed : '\n' ∉ key) (noReturn : '\r' ∉ key)
    (storedValue : StoredValue value) :
    Line.ReadsAs (key ++ '=' :: value) key value ↔ StoredKey key ∧ ¬ Line.Bracketed key value := by
  constructor
  · intro reads
    have some := ne_nil_of_readsAs reads
    obtain ⟨keyText, valueText, kind, keyIs, valueIs⟩ := reads
    -- The parts that are read are the key and the value, so what holds of parts holds of these.
    have clean : '\n' ∉ key ++ '=' :: value := by simp [noFeed, storedValue.noFeed]
    have stored := stored_of_setting clean kind
    rw [keyIs, valueIs] at stored
    obtain ⟨storedKey, -, plain⟩ := stored some noReturn storedValue.noReturn
    exact ⟨storedKey, plain⟩
  · rintro ⟨storedKey, plain⟩
    have shape : Line.SettingShape (key ++ '=' :: value) key value := ⟨storedKey.chars, rfl⟩
    have noHeader : ∀ name, ¬ Line.HeaderShape (key ++ '=' :: value) name := by
      rw [← not_exists, Line.exists_headerShape_iff, storedKey.trimmed, storedValue.trimmed]
      exact plain
    exact ⟨key, value,
      Line.classify_of_settingShape shape noHeader storedKey.named storedValue.noFeed,
      storedKey.trimmed, storedValue.trimmed⟩

/-- A key passes with a value exactly when they are read from their line. -/
theorem exists_entry_iff {keyText valueText : Text} (keyUnbroken : isUnbroken keyText = true)
    (valueUnbroken : isUnbroken valueText = true) :
    (∃ passed, entry keyText valueText = .ok passed) ↔
      Line.ReadsAs (Text.trim keyText ++ '=' :: Text.trim valueText)
        (Text.trim keyText) (Text.trim valueText) := by
  obtain ⟨keyFeed, keyReturn⟩ := isUnbroken_iff.mp keyUnbroken
  obtain ⟨valueFeed, valueReturn⟩ := isUnbroken_iff.mp valueUnbroken
  rw [readsAs_iff (fun feed => keyFeed (Text.mem_of_mem_trim feed))
    (fun back => keyReturn (Text.mem_of_mem_trim back)) (storedValue_trim valueFeed valueReturn)]
  constructor
  · rintro ⟨⟨key, value⟩, passed⟩
    obtain ⟨rfl, rfl, storedKey, -, -, plain⟩ := entry_eq_ok_iff.mp passed
    exact ⟨storedKey, plain⟩
  · rintro ⟨storedKey, plain⟩
    exact ⟨(Text.trim keyText, Text.trim valueText),
      entry_eq_ok_iff.mpr ⟨rfl, rfl, storedKey, valueFeed, valueReturn, plain⟩⟩

/-- A section name passes exactly when it is read from its line as a name that is not empty. -/
theorem exists_sectionName_iff {text : Text} (unbroken : isUnbroken text = true) :
    (∃ passed, sectionName text = .ok passed) ↔
      Line.classify ('[' :: (Text.trim text ++ [']'])) = .header (Text.trim text) ∧
        Text.trim text ≠ [] := by
  obtain ⟨noFeed, noReturn⟩ := isUnbroken_iff.mp unbroken
  constructor
  · rintro ⟨passed, accepted⟩
    obtain ⟨rfl, stored⟩ := sectionName_eq_ok_iff.mp accepted
    have kind := Line.classify_of_headerShape (Layout.headerShape_bracketed stored.noClose)
    rw [stored.trimmed] at kind
    exact ⟨kind, stored.named⟩
  · rintro ⟨kind, named⟩
    have clean : '\n' ∉ '[' :: (Text.trim text ++ [']']) := by
      simpa using fun feed => noFeed (Text.mem_of_mem_trim feed)
    have stored := storedName_of_header clean kind named
      fun back => noReturn (Text.mem_of_mem_trim back)
    exact ⟨Text.trim text, sectionName_eq_ok_iff.mpr ⟨rfl, stored⟩⟩

/-- The guards are exact: without line breaks, a key passes with a value exactly when both are read
back from the line of the two, and the padded line then reads back in the same way; a section name
passes exactly when its header is read back. What passes is what is read. -/
theorem passes_exactly_what_reads_back :
    (∀ keyText valueText, isUnbroken keyText = true → isUnbroken valueText = true →
      ((∃ passed, entry keyText valueText = .ok passed) ↔
        Line.ReadsAs (Text.trim keyText ++ '=' :: Text.trim valueText)
          (Text.trim keyText) (Text.trim valueText)) ∧
      ∀ passed, entry keyText valueText = .ok passed →
        passed = (Text.trim keyText, Text.trim valueText) ∧
        Line.ReadsAs
          (Text.trimEnd (Text.trim keyText ++ [' ', '=', ' '] ++ Text.trim valueText))
          (Text.trim keyText) (Text.trim valueText)) ∧
    ∀ text, isUnbroken text = true →
      ((∃ passed, sectionName text = .ok passed) ↔
        Line.classify ('[' :: (Text.trim text ++ [']'])) = .header (Text.trim text) ∧
          Text.trim text ≠ []) ∧
      ∀ passed, sectionName text = .ok passed → passed = Text.trim text := by
  constructor
  · intro keyText valueText keyUnbroken valueUnbroken
    refine ⟨exists_entry_iff keyUnbroken valueUnbroken, fun passed accepted => ?_⟩
    obtain ⟨keyIs, valueIs, storedKey, noFeed, noReturn, plain⟩ := entry_eq_ok_iff.mp accepted
    have storedValue := storedValue_trim noFeed noReturn
    rw [← valueIs] at storedValue
    have reads := Layout.classify_settingLine true storedKey storedValue plain
    rw [keyIs, valueIs] at reads
    exact ⟨Prod.ext keyIs valueIs, reads⟩
  · intro text unbroken
    exact ⟨exists_sectionName_iff unbroken, fun passed accepted =>
      (sectionName_eq_ok_iff.mp accepted).1⟩

/-- A bracketed key passes with a value that leaves the bracket open, and the padded line reads
back; with a value that closes the bracket it does not pass. -/
theorem passes_exactly_what_reads_back_bracketed :
    ((∃ passed, entry [' ', '[', 'a'] ['b', ' '] = .ok passed) ∧
      Line.ReadsAs ['[', 'a', ' ', '=', ' ', 'b'] ['[', 'a'] ['b']) ∧
    (¬ ∃ passed, entry ['[', 'a'] ['b', ']'] = .ok passed) ∧
    ∃ passed, sectionName ['n', ' '] = .ok passed := by
  refine ⟨⟨?_, ?_⟩, ?_, ?_⟩
  · exact ((passes_exactly_what_reads_back.1 [' ', '[', 'a'] ['b', ' '] (by decide)
      (by decide)).1).mpr ⟨['[', 'a'], ['b'], by decide, by decide, by decide⟩
  · exact ((passes_exactly_what_reads_back.1 ['[', 'a'] ['b'] (by decide) (by decide)).2
      (['[', 'a'], ['b']) (by decide)).2
  · intro passes
    have reads := ((passes_exactly_what_reads_back.1 ['[', 'a'] ['b', ']'] (by decide)
      (by decide)).1).mp passes
    obtain ⟨keyText, valueText, kind, -, -⟩ := reads
    have header : Line.classify ['[', 'a', '=', 'b', ']'] = .header ['a', '=', 'b'] := by decide
    exact absurd (header.symm.trans kind) (by simp)
  · exact ((passes_exactly_what_reads_back.2 ['n', ' '] (by decide)).1).mpr
      ⟨by decide, by decide⟩

end Guard

end IniKeeper
