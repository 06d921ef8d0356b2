import IniKeeper.Proofs.Histories

/-!
# What every document satisfies

Whatever was written, removed, read, loaded or merged, and however far a text was read that is at
fault: a document begins with its global section, every other section has a name of its own that
may be stood in a header, no key stands twice in a section, and every comment is valid. An entry is
a setting whose key and value, written as one line, are read back as they are, or a comment block of
its own under its marker and the digits of a number.
-/

namespace IniKeeper

open Guard (StoredKey StoredName StoredValue)

namespace Entry

/-- The key and the value of a setting, written as one line, are read as just these. -/
theorem IsSetting.classify_eq {entry : Entry} (setting : entry.IsSetting) {value : Text}
    (valued : entry.value = some value) :
    Line.classify (entry.key ++ '=' :: value) = .setting entry.key value := by
  obtain ⟨found, here, stored, plain⟩ := setting.value
  obtain rfl : found = value := Option.some.inj (here.symm.trans valued)
  have shape : Line.SettingShape (entry.key ++ '=' :: found) entry.key found :=
    ⟨setting.key.chars, rfl⟩
  have noHeader : ∀ name, ¬ Line.HeaderShape (entry.key ++ '=' :: found) name := by
    have bracketed := @Line.exists_headerShape_iff entry.key found
    rw [setting.key.trimmed, stored.trimmed] at bracketed
    exact not_exists.mp fun header => plain (bracketed.mp header)
  exact Line.classify_of_settingShape shape noHeader setting.key.named stored.noFeed

/-- A comment block of its own in the form in which it is kept. -/
structure Stands (entry : Entry) (marker : Char) (digits block : Text) : Prop where
  /-- The key is a marker and digits. -/
  key : entry.key = marker :: digits
  /-- The marker begins comments. -/
  marked : Line.isMarker marker = true
  /-- There are digits. -/
  numbered : digits ≠ []
  /-- The digits are decimal. -/
  decimal : ∀ c ∈ digits, c.isDigit = true
  /-- There is no value. -/
  value : entry.value = none
  /-- The comment is the block. -/
  comment : entry.comment = some block
  /-- The block may be stored. -/
  valid : Comment.isBlock block = true
  /-- The block begins with the marker. -/
  first : block.head? = some marker

/-- A note stands under the marker of its block and the digits of its line. -/
theorem IsNote.stands {entry : Entry} (note : entry.IsNote) :
    ∃ marker digits block, entry.Stands marker digits block := by
  have standalone := note.isStandalone
  obtain ⟨block, line, valid, rfl⟩ := note
  refine ⟨Comment.marker block, Nat.toDigits 10 line, block, rfl, standalone,
    Nat.toDigits_ne_nil, fun c member => ?_, rfl, rfl, valid, ?_⟩
  · exact Nat.isDigit_of_mem_toDigits (by decide) (by decide) member
  · cases block with
    | nil => simp [Comment.isBlock] at valid
    | cons marker rest => rfl

end Entry

namespace Document

/-- In a sound document the global section is the first and the only one without a name. -/
theorem Sound.exists_named {document : Document} (sound : document.Sound) :
    ∃ global others, document.sections = global :: others ∧ global.name = none ∧
      ∀ sect ∈ others, ∃ name, sect.name = some name ∧ StoredName name := by
  have first := sound.first
  cases whole : document.sections with
  | nil => simp [sectionNames, whole] at first
  | cons global others =>
    simp only [sectionNames, whole, List.map_cons, List.head?_cons, Option.some.injEq] at first
    refine ⟨global, others, rfl, first, fun sect member => ?_⟩
    have distinct := sound.distinct
    rw [sectionNames, whole, List.map_cons, List.nodup_cons, first] at distinct
    cases named : sect.name with
    | none => exact absurd (named ▸ List.mem_map_of_mem member) distinct.1
    | some name =>
      refine ⟨name, rfl, sound.named name ?_⟩
      rw [sectionNames, whole, ← named]
      exact List.mem_map_of_mem (List.mem_cons_of_mem _ member)

/-- A document with any history begins with its only section without a name; names of sections are
distinct and may be stored, and so are the keys of a section. Each entry is a setting with a value,
and its line is read back as its key and its value, or it is a comment block of its own under a
marker and digits. The comments of sections and settings are absent or comment blocks. -/
theorem reachable_invariant {document : Document} (reachable : document.Reachable) :
    (∃ global others, document.sections = global :: others ∧ global.name = none ∧
        ∀ sect ∈ others, ∃ name, sect.name = some name ∧ StoredName name) ∧
      document.sectionNames.Nodup ∧
      ∀ sect ∈ document.sections,
        Comment.isValid sect.comment = true ∧ (sect.entries.map Entry.key).Nodup ∧
        ∀ entry ∈ sect.entries,
          (∃ value, StoredKey entry.key ∧ entry.value = some value ∧ StoredValue value ∧
              Line.classify (entry.key ++ '=' :: value) = .setting entry.key value ∧
              Comment.isValid entry.comment = true) ∨
            ∃ marker digits block, entry.Stands marker digits block := by
  have sound := reachable.sound
  refine ⟨sound.exists_named, sound.distinct, fun sect member => ?_⟩
  have whole := sound.sections sect member
  refine ⟨whole.comment, whole.distinct, fun entry inside => ?_⟩
  rcases whole.entries entry inside with setting | note
  · obtain ⟨value, valued, stored, -⟩ := setting.value
    exact .inl ⟨value, setting.key, valued, stored, setting.classify_eq valued, setting.comment⟩
  · exact .inr note.stands

/-- The invariant holds of what a text leaves that is at fault in its fifth line. -/
theorem reachable_invariant_after_fault :
    (parse empty [] "[ s ]\nk = [v\n; n\n\nk".toList).result =
        .error (.badLine [] 5 "k".toList) ∧
      (parse empty [] "[ s ]\nk = [v\n; n\n\nk".toList).document.sectionNames.Nodup ∧
      ∀ sect ∈ (parse empty [] "[ s ]\nk = [v\n; n\n\nk".toList).document.sections,
        (sect.entries.map Entry.key).Nodup := by
  have reached : (parse empty [] "[ s ]\nk = [v\n; n\n\nk".toList).document.Reachable :=
    .step .empty (.parse [] _ rfl)
  obtain ⟨-, distinct, sections⟩ := reachable_invariant reached
  exact ⟨rfl, distinct, fun sect member => (sections sect member).2.1⟩

end Document

end IniKeeper
