import IniKeeper.Proofs.Soundness

/-!
# Edits of a document

What each write to a document does, said once: it succeeds exactly when its arguments pass their
guards and its section is there or may be added, and it then amends that one section. Setters are
the writes that take arguments from a caller and remove nothing. They keep a document sound, and
they make settings only.
-/

namespace IniKeeper

open Guard (StoredKey StoredName StoredValue)

/-! ### Edits of an entry -/

namespace Entry

/-- Without a value there is no bracket to close. -/
theorem not_bracketed_nil (key : Text) : ¬ Line.Bracketed key [] := by
  rintro ⟨rest, front, -, closed, -, -⟩
  simp at closed

/-- Setting a value, and a comment where one is given, makes a setting. -/
theorem settingEdit_define {key value : Text} {comment : Option Text} (storedKey : StoredKey key)
    (storedValue : StoredValue value) (plain : ¬ Line.Bracketed key value)
    (valid : Comment.isValid comment = true) :
    SettingEdit key fun entry =>
      { entry with value := some value, comment := comment.or entry.comment } where
  stored := storedKey
  fresh := ⟨storedKey, ⟨value, rfl, storedValue, plain⟩, by cases comment <;> simp_all [new]⟩
  again entry setting same := by
    refine ⟨setting.key, ⟨value, rfl, storedValue, same ▸ plain⟩, ?_⟩
    cases comment with
    | none => exact setting.comment
    | some block => exact valid
  keyed _ same := same

/-- Setting a value and replacing the comment makes a setting. -/
theorem settingEdit_replace {key value : Text} {comment : Option Text} (storedKey : StoredKey key)
    (storedValue : StoredValue value) (plain : ¬ Line.Bracketed key value)
    (valid : Comment.isValid comment = true) :
    SettingEdit key fun entry => { entry with value := some value, comment := comment } where
  stored := storedKey
  fresh := ⟨storedKey, ⟨value, rfl, storedValue, plain⟩, valid⟩
  again _ setting same := ⟨setting.key, ⟨value, rfl, storedValue, same ▸ plain⟩, valid⟩
  keyed _ same := same

/-- Replacing the comment, with the empty value where there is none, makes a setting. -/
theorem settingEdit_comment {key : Text} {comment : Option Text} (storedKey : StoredKey key)
    (valid : Comment.isValid comment = true) :
    SettingEdit key fun entry =>
      { entry with value := some entry.valueText, comment := comment } where
  stored := storedKey
  fresh := ⟨storedKey, ⟨[], rfl, Guard.storedValue_nil, not_bracketed_nil key⟩, valid⟩
  again entry setting _ := by
    obtain ⟨value, here, stored, plain⟩ := setting.value
    exact ⟨setting.key, ⟨value, by rw [valueText, here]; rfl, stored, plain⟩, valid⟩
  keyed _ same := same

end Entry

namespace Document

/-! ### What each write does -/

/-- A section comment is set exactly when it is valid and the section is there or may be added. -/
theorem ensureSection_eq_ok_iff {document changed : Document} {sect comment : Option Text}
    (sound : document.Sound) :
    document.ensureSection sect comment = .ok changed ↔
      Comment.isValid comment = true ∧ document.Admits (address sect) ∧
        changed = document.amend (address sect) fun found => { found with comment := comment } := by
  unfold ensureSection
  simp only [Attempt.bind_eq_ok_iff, Guard.comment_eq_ok_iff, change_eq_ok_iff sound]
  simp

/-- A value is set exactly when key and value pass together and the section is there or may be
added; what was there before is given. -/
theorem setString_eq_ok_iff {document changed : Document} {sect : Option Text}
    {keyText valueText : Text} {before : Option Text} (sound : document.Sound) :
    document.setString sect keyText valueText = .ok (changed, before) ↔
      ∃ key value, Guard.entry keyText valueText = .ok (key, value) ∧
        document.Admits (address sect) ∧
        changed = document.amend (address sect) (fun found => found.change key fun entry =>
          { entry with value := some value }) ∧
        before = document.value? sect key := by
  unfold setString changeEntry
  simp only [Attempt.bind_eq_ok_iff, change_eq_ok_iff sound, Except.ok.injEq, Prod.mk.injEq]
  constructor
  · rintro ⟨⟨key, value⟩, passed, amended, ⟨admits, rfl⟩, rfl, rfl⟩
    exact ⟨key, value, passed, admits, rfl, rfl⟩
  · rintro ⟨key, value, passed, admits, rfl, rfl⟩
    exact ⟨(key, value), passed, _, ⟨admits, rfl⟩, rfl, rfl⟩

/-- A value and a comment are set exactly when the comment is valid, key and value pass together,
and the section is there or may be added; the value before is given. -/
theorem setStringWithComment_eq_ok_iff {document changed : Document} {sect comment : Option Text}
    {keyText valueText : Text} {before : Option Text} (sound : document.Sound) :
    document.setStringWithComment sect keyText valueText comment = .ok (changed, before) ↔
      Comment.isValid comment = true ∧
      ∃ key value, Guard.entry keyText valueText = .ok (key, value) ∧
        document.Admits (address sect) ∧
        changed = document.amend (address sect) (fun found => found.change key fun entry =>
          { entry with value := some value, comment := comment }) ∧
        before = document.value? sect key := by
  unfold setStringWithComment changeEntry
  simp only [Attempt.bind_eq_ok_iff, Guard.comment_eq_ok_iff, change_eq_ok_iff sound,
    Except.ok.injEq, Prod.mk.injEq]
  constructor
  · rintro ⟨-, valid, ⟨key, value⟩, passed, amended, ⟨admits, rfl⟩, rfl, rfl⟩
    exact ⟨valid, key, value, passed, admits, rfl, rfl⟩
  · rintro ⟨valid, key, value, passed, admits, rfl, rfl⟩
    exact ⟨(), valid, (key, value), passed, _, ⟨admits, rfl⟩, rfl, rfl⟩

/-- A key comment is set exactly when it is valid, the key passes, and the section is there or may
be added; the comment before is given. -/
theorem setComment_eq_ok_iff {document changed : Document} {sect comment : Option Text}
    {keyText : Text} {before : Option Text} (sound : document.Sound) :
    document.setComment sect keyText comment = .ok (changed, before) ↔
      Comment.isValid comment = true ∧
      ∃ key, StoredKey key ∧ key = Text.trim keyText ∧ document.Admits (address sect) ∧
        changed = document.amend (address sect) (fun found => found.change key fun entry =>
          { entry with value := some entry.valueText, comment := comment }) ∧
        before = document.comment? sect key := by
  unfold setComment changeEntry
  simp only [Attempt.bind_eq_ok_iff, Guard.comment_eq_ok_iff, change_eq_ok_iff sound,
    Except.ok.injEq, Prod.mk.injEq]
  constructor
  · rintro ⟨-, valid, ⟨key, value⟩, passed, amended, ⟨admits, rfl⟩, rfl, rfl⟩
    obtain ⟨trimmed, -, stored, -⟩ := Guard.entry_eq_ok_iff.mp passed
    exact ⟨valid, key, stored, trimmed, admits, rfl, rfl⟩
  · rintro ⟨valid, key, stored, trimmed, admits, rfl, rfl⟩
    have passed : Guard.entry keyText [] = .ok (key, []) :=
      Guard.entry_eq_ok_iff.mpr
        ⟨trimmed, rfl, stored, by simp, by simp, Entry.not_bracketed_nil key⟩
    exact ⟨(), valid, (key, []), passed, _, ⟨admits, rfl⟩, rfl, rfl⟩

/-- A note is stored exactly when its section is there or may be added. -/
theorem addStandalone_eq_ok_iff {document changed : Document} {sect : Option Text} {block : Text}
    {line : Nat} (sound : document.Sound) :
    document.addStandalone sect block line = .ok changed ↔ document.Admits (address sect) ∧
      changed = document.amend (address sect) fun found =>
        found.put (Entry.standalone block line) :=
  change_eq_ok_iff sound

/-- A write that may be refused as a fault succeeds with what the write gives. -/
theorem refuse_eq_ok_iff {α : Type} {attempt : Except Refusal α} {result : α} :
    refuse attempt = .ok result ↔ attempt = .ok result := by
  cases attempt with
  | ok found =>
    have same : refuse (.ok found) = .ok found := rfl
    rw [same, Except.ok.injEq, Except.ok.injEq]
  | error reason =>
    have failed : refuse (.error reason : Except Refusal α) = .error (.refused reason) := rfl
    rw [failed]
    exact ⟨fun wrong => by contradiction, fun wrong => by contradiction⟩

/-- What a typed write does is what writing the text of the value does. -/
theorem setString_of_setAs {α : Type} [Storable α] {document changed : Document}
    {sect : Option Text} {key : Text} {value : α} {before : Option α}
    (done : document.setAs sect key value = .ok (changed, before)) :
    ∃ text, document.setString sect key (Storable.write value) = .ok (changed, text) := by
  unfold setAs at done
  simp only [Attempt.bind_eq_ok_iff, Except.ok.injEq, Prod.mk.injEq] at done
  obtain ⟨-, -, previous, -, ⟨written, text⟩, wrote, rfl, -⟩ := done
  exact ⟨text, refuse_eq_ok_iff.mp wrote⟩

/-- What a typed write with a comment does is what writing the text of the value with it does. -/
theorem setStringWithComment_of_setAsWithComment {α : Type} [Storable α]
    {document changed : Document} {sect comment : Option Text} {key : Text} {value : α}
    {before : Option α}
    (done : document.setAsWithComment sect key value comment = .ok (changed, before)) :
    ∃ text, document.setStringWithComment sect key (Storable.write value) comment =
      .ok (changed, text) := by
  unfold setAsWithComment at done
  simp only [Attempt.bind_eq_ok_iff, Except.ok.injEq, Prod.mk.injEq] at done
  obtain ⟨-, -, -, -, previous, -, ⟨written, text⟩, wrote, rfl, -⟩ := done
  exact ⟨text, refuse_eq_ok_iff.mp wrote⟩

/-! ### Setters -/

/-- A successful write from a caller that adds or changes and never removes. -/
inductive Setter (document changed : Document) : Prop where
  /-- A section is made or its comment set. -/
  | ensureSection {sect comment : Option Text}
      (done : document.ensureSection sect comment = .ok changed)
  /-- A value is set. -/
  | setString {sect : Option Text} {key value : Text} {before : Option Text}
      (done : document.setString sect key value = .ok (changed, before))
  /-- A value is set together with a comment. -/
  | setStringWithComment {sect comment : Option Text} {key value : Text} {before : Option Text}
      (done : document.setStringWithComment sect key value comment = .ok (changed, before))
  /-- A comment is set. -/
  | setComment {sect comment : Option Text} {key : Text} {before : Option Text}
      (done : document.setComment sect key comment = .ok (changed, before))
  /-- A value of a type is set. -/
  | setAs {α : Type} [Storable α] {sect : Option Text} {key : Text} {value : α} {before : Option α}
      (done : document.setAs sect key value = .ok (changed, before))
  /-- A value of a type is set together with a comment. -/
  | setAsWithComment {α : Type} [Storable α] {sect comment : Option Text} {key : Text} {value : α}
      {before : Option α}
      (done : document.setAsWithComment sect key value comment = .ok (changed, before))

/-- Setting a value makes a setting in a section that is there or may be added. -/
theorem amends_of_setString {document changed : Document} {sect : Option Text}
    {keyText valueText : Text} {before : Option Text} (sound : document.Sound)
    (done : document.setString sect keyText valueText = .ok (changed, before)) :
    ∃ key edit, document.Admits (address sect) ∧ Entry.SettingEdit key edit ∧
      changed = document.amend (address sect) fun found => found.change key edit := by
  obtain ⟨key, value, passed, admits, amended, -⟩ := (setString_eq_ok_iff sound).mp done
  obtain ⟨-, rfl, stored, noFeed, noReturn, plain⟩ := Guard.entry_eq_ok_iff.mp passed
  have valueStored := Guard.storedValue_trim noFeed noReturn
  exact ⟨key, _, admits, @Entry.settingEdit_define key _ none stored valueStored plain rfl,
    amended⟩

/-- Setting a value together with a comment makes a setting in a section that is there or may be
added. -/
theorem amends_of_setStringWithComment {document changed : Document} {sect comment : Option Text}
    {keyText valueText : Text} {before : Option Text} (sound : document.Sound)
    (done : document.setStringWithComment sect keyText valueText comment = .ok (changed, before)) :
    ∃ key edit, document.Admits (address sect) ∧ Entry.SettingEdit key edit ∧
      changed = document.amend (address sect) fun found => found.change key edit := by
  obtain ⟨valid, key, value, passed, admits, amended, -⟩ :=
    (setStringWithComment_eq_ok_iff sound).mp done
  obtain ⟨-, rfl, stored, noFeed, noReturn, plain⟩ := Guard.entry_eq_ok_iff.mp passed
  have valueStored := Guard.storedValue_trim noFeed noReturn
  exact ⟨key, _, admits, Entry.settingEdit_replace stored valueStored plain valid, amended⟩

/-- A setter amends one section that is there or may be added: it gives the section a valid
comment, or it makes a setting in it. -/
theorem Setter.amends {document changed : Document} (setter : Setter document changed)
    (sound : document.Sound) :
    ∃ name, document.Admits name ∧
      ((∃ comment, Comment.isValid comment = true ∧
          changed = document.amend name fun found => { found with comment := comment }) ∨
        ∃ key edit, Entry.SettingEdit key edit ∧
          changed = document.amend name fun found => found.change key edit) := by
  cases setter with
  | @ensureSection sect comment done =>
    obtain ⟨valid, admits, amended⟩ := (ensureSection_eq_ok_iff sound).mp done
    exact ⟨address sect, admits, .inl ⟨comment, valid, amended⟩⟩
  | @setString sect _ _ _ done =>
    obtain ⟨key, edit, admits, setting, amended⟩ := amends_of_setString sound done
    exact ⟨address sect, admits, .inr ⟨key, edit, setting, amended⟩⟩
  | @setStringWithComment sect _ _ _ _ done =>
    obtain ⟨key, edit, admits, setting, amended⟩ := amends_of_setStringWithComment sound done
    exact ⟨address sect, admits, .inr ⟨key, edit, setting, amended⟩⟩
  | @setComment sect comment _ _ done =>
    obtain ⟨valid, key, stored, -, admits, amended, -⟩ := (setComment_eq_ok_iff sound).mp done
    exact ⟨address sect, admits, .inr ⟨key, _, Entry.settingEdit_comment stored valid, amended⟩⟩
  | @setAs α _ sect _ _ _ done =>
    obtain ⟨text, written⟩ := setString_of_setAs done
    obtain ⟨key, edit, admits, setting, amended⟩ := amends_of_setString sound written
    exact ⟨address sect, admits, .inr ⟨key, edit, setting, amended⟩⟩
  | @setAsWithComment α _ sect _ _ _ _ done =>
    obtain ⟨text, written⟩ := setStringWithComment_of_setAsWithComment done
    obtain ⟨key, edit, admits, setting, amended⟩ := amends_of_setStringWithComment sound written
    exact ⟨address sect, admits, .inr ⟨key, edit, setting, amended⟩⟩

/-- A setter keeps a document sound. -/
theorem Setter.sound {document changed : Document} (setter : Setter document changed)
    (sound : document.Sound) : changed.Sound := by
  obtain ⟨name, admits, ⟨comment, valid, rfl⟩ | ⟨key, edit, setting, rfl⟩⟩ := setter.amends sound
  · exact sound.amend admits (fun _ same => same) fun _ whole => whole.withComment valid
  · exact sound.amend admits (fun _ same => same) fun _ whole => whole.changeSetting setting

/-! ### Removals -/

/-- A write that takes something out. -/
inductive Removal (document changed : Document) : Prop where
  /-- An entry is removed. -/
  | removeKey {sect : Option Text} {key : Text} {removed : Entry}
      (done : document.removeKey sect key = some (removed, changed))
  /-- A named section is removed. -/
  | removeSection {sect : Option Text} {removed : Section}
      (done : document.removeSection sect = some (removed, changed))

/-- Removing an entry amends its section, which is there. -/
theorem removeKey_eq_some {document changed : Document} {sect : Option Text} {key : Text}
    {removed : Entry} (done : document.removeKey sect key = some (removed, changed)) :
    address sect ∈ document.sectionNames ∧
      changed = document.amend (address sect) fun found => found.erase (Text.trim key) := by
  unfold removeKey at done
  simp only [Option.bind_eq_bind, Option.bind_eq_some_iff, Option.some.injEq, Prod.mk.injEq] at done
  obtain ⟨entry, found, -, rfl⟩ := done
  unfold entry? at found
  simp only [Option.bind_eq_bind, Option.bind_eq_some_iff] at found
  obtain ⟨holder, held, -⟩ := found
  have present : address sect ∈ document.sectionNames :=
    hasSection_iff.mp (by rw [hasSection, held]; rfl)
  refine ⟨present, ?_⟩
  rw [amend, Roster.upsert_fresh _ _ Section.global (Section.new (address sect) none) _ _ present]

/-- Removing a section takes a named section out of the list. -/
theorem removeSection_eq_some {document changed : Document} {sect : Option Text}
    {removed : Section} (done : document.removeSection sect = some (removed, changed)) :
    address sect ≠ none ∧
      changed = ⟨Roster.erase Section.name (address sect) document.sections⟩ := by
  unfold removeSection at done
  cases sect with
  | none => simp at done
  | some name =>
    simp only [Option.bind_eq_bind, Option.bind_some, Option.bind_eq_some_iff, Option.some.injEq,
      Prod.mk.injEq] at done
    obtain ⟨found, -, -, rfl⟩ := done
    exact ⟨by simp [address], rfl⟩

/-- The document after a key was removed; as it is where there is no such key. -/
def removingKey (document : Document) (sect : Option Text) (key : Text) : Document :=
  ((document.removeKey sect key).map Prod.snd).getD document

/-- The document after a section was removed; as it is where there is no such section. -/
def removingSection (document : Document) (sect : Option Text) : Document :=
  ((document.removeSection sect).map Prod.snd).getD document

/-- A removal keeps a document sound. -/
theorem Removal.sound {document changed : Document} (removal : Removal document changed)
    (sound : document.Sound) : changed.Sound := by
  cases removal with
  | removeKey done =>
    obtain ⟨present, rfl⟩ := removeKey_eq_some done
    exact sound.amend (.inl present) (fun _ same => same) fun _ whole => whole.erase _
  | @removeSection sect removed done =>
    obtain ⟨isNamed, rfl⟩ := removeSection_eq_some done
    have smaller : (Roster.erase Section.name (address sect) document.sections).Sublist
        document.sections := List.eraseP_sublist
    have names := smaller.map Section.name
    refine ⟨?_, fun name member => sound.named name (names.subset member),
      sound.distinct.sublist names,
      fun found member => sound.sections found (smaller.subset member)⟩
    have first := sound.first
    cases whole : document.sections with
    | nil => simp [sectionNames, whole] at first
    | cons head rest =>
      simp only [sectionNames, whole, List.map_cons, List.head?_cons, Option.some.injEq] at first
      have kept : head.name ≠ address sect := by
        rw [first]
        exact isNamed.symm
      rw [sectionNames, Roster.erase_cons_of_ne _ _ _ _ kept, List.map_cons, List.head?_cons,
        first]

/-- Removing a key keeps a document sound. -/
theorem Sound.removingKey {document : Document} (sound : document.Sound) (sect : Option Text)
    (key : Text) : (document.removingKey sect key).Sound := by
  unfold Document.removingKey
  cases done : document.removeKey sect key with
  | none => exact sound
  | some removed => exact (Removal.removeKey done).sound sound

/-- Removing a section keeps a document sound. -/
theorem Sound.removingSection {document : Document} (sound : document.Sound)
    (sect : Option Text) : (document.removingSection sect).Sound := by
  unfold Document.removingSection
  cases done : document.removeSection sect with
  | none => exact sound
  | some removed => exact (Removal.removeSection done).sound sound

end Document

end IniKeeper
