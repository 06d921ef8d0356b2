import IniKeeper.Document
import IniKeeper.Proofs.Guarding

/-!
# Sound documents

A sound document begins with the global section, has every other section under a name that may be
stored, and names no section and no key of a section twice. Each of its entries is a setting that
reads back from its line or a standalone comment under its made-up key, and each comment is valid.
Every change of a document is one change of one section; this module says what such a change does
and that sound documents stay sound under it.
-/

namespace IniKeeper

open Guard (StoredKey StoredName StoredValue)

/-! ### Entries -/

namespace Entry

/-- A key with a value that reads back from its line, and a valid comment. -/
structure IsSetting (entry : Entry) : Prop where
  /-- The key may be stored. -/
  key : StoredKey entry.key
  /-- There is a value, it may be stored, and key and value make no header. -/
  value : ∃ value, entry.value = some value ∧ StoredValue value ∧
    ¬ Line.Bracketed entry.key value
  /-- The comment is absent or a comment block. -/
  comment : Comment.isValid entry.comment = true

/-- A comment block under the key made up for it. -/
def IsNote (entry : Entry) : Prop :=
  ∃ block line, Comment.isBlock block = true ∧ entry = standalone block line

/-- Different line numbers have different digits. -/
theorem line_eq_of_toDigits {line other : Nat}
    (same : Nat.toDigits 10 line = Nat.toDigits 10 other) : line = other := by
  have read := congrArg (Nat.ofDigitChars 10 · 0) same
  simp only [Nat.ofDigitChars_toDigits (by decide : 1 < 10) (by decide : 10 ≤ 10)] at read
  exact read

/-- A key that may be stored does not begin with a marker. -/
theorem isStandalone_of_storedKey {entry : Entry} (stored : StoredKey entry.key) :
    entry.isStandalone = false := by
  unfold isStandalone
  split
  · rfl
  · rename_i c rest split
    obtain ⟨noHash, noSemicolon, -⟩ := stored.chars c (split ▸ List.mem_cons_self)
    simp [Line.isMarker, noHash, noSemicolon]

/-- A setting is no standalone comment. -/
theorem IsSetting.not_isStandalone {entry : Entry} (setting : entry.IsSetting) :
    entry.isStandalone = false :=
  isStandalone_of_storedKey setting.key

/-- A note is a standalone comment. -/
theorem IsNote.isStandalone {entry : Entry} (note : entry.IsNote) : entry.isStandalone = true := by
  obtain ⟨block, line, valid, rfl⟩ := note
  exact isStandalone_standalone block line valid

/-- An entry under a key that may be stored is a setting. -/
theorem isSetting_of_storedKey {entry : Entry} (sound : entry.IsSetting ∨ entry.IsNote)
    (stored : StoredKey entry.key) : entry.IsSetting := by
  rcases sound with setting | note
  · exact setting
  · have standalone := note.isStandalone
    rw [isStandalone_of_storedKey stored] at standalone
    contradiction

/-- An edit that makes a setting of a bare entry and of every setting of one key. -/
structure SettingEdit (key : Text) (edit : Entry → Entry) : Prop where
  /-- The key may be stored. -/
  stored : StoredKey key
  /-- A bare entry becomes a setting. -/
  fresh : (edit (new key)).IsSetting
  /-- A setting stays one. -/
  again : ∀ entry, entry.IsSetting → entry.key = key → (edit entry).IsSetting
  /-- The key is kept. -/
  keyed : ∀ entry, entry.key = key → (edit entry).key = key

end Entry

/-! ### Sections -/

namespace Section

/-- A section whose entries and comment are as they should be. -/
structure Sound (sect : Section) : Prop where
  /-- The comment is absent or a comment block. -/
  comment : Comment.isValid sect.comment = true
  /-- Each entry is a setting or a note. -/
  entries : ∀ entry ∈ sect.entries, entry.IsSetting ∨ entry.IsNote
  /-- No key stands twice. -/
  distinct : (sect.entries.map Entry.key).Nodup

/-- A section without entries and comment is sound. -/
theorem sound_new (name : Option Text) : (new name none).Sound :=
  ⟨rfl, by simp [new], by simp [new]⟩

/-- A sound section stays sound under another valid comment. -/
theorem Sound.withComment {sect : Section} (sound : sect.Sound) {comment : Option Text}
    (valid : Comment.isValid comment = true) : Sound { sect with comment := comment } :=
  ⟨valid, sound.entries, sound.distinct⟩

/-- A sound section stays sound when the entry of one key is changed soundly. -/
theorem Sound.change {sect : Section} (sound : sect.Sound) {key : Text} {edit : Entry → Entry}
    (fresh : (edit (Entry.new key)).IsSetting ∨ (edit (Entry.new key)).IsNote)
    (again : ∀ entry ∈ sect.entries, entry.key = key → (edit entry).IsSetting ∨ (edit entry).IsNote)
    (freshKeyed : (edit (Entry.new key)).key = key)
    (keyed : ∀ entry ∈ sect.entries, entry.key = key → (edit entry).key = key) :
    (sect.change key edit).Sound := by
  refine ⟨sound.comment, fun entry member => ?_, ?_⟩
  · rcases Roster.mem_upsert _ _ _ _ _ member with old | rfl | ⟨found, inside, same, rfl⟩
    · exact sound.entries entry old
    · exact fresh
    · exact again found inside same
  · have names : (sect.change key edit).entries.map Entry.key =
        Roster.enroll key (sect.entries.map Entry.key) :=
      Roster.names_upsert _ _ _ _ _ freshKeyed keyed
    rw [names]
    exact Roster.nodup_enroll sound.distinct

/-- A sound section stays sound when a setting is made or changed. -/
theorem Sound.changeSetting {sect : Section} (sound : sect.Sound) {key : Text}
    {edit : Entry → Entry} (setting : Entry.SettingEdit key edit) :
    (sect.change key edit).Sound := by
  apply sound.change (.inl setting.fresh) _ (setting.keyed _ rfl)
  · exact fun entry _ same => setting.keyed entry same
  · intro entry member same
    have stored : StoredKey entry.key := same ▸ setting.stored
    have settled := Entry.isSetting_of_storedKey (sound.entries entry member) stored
    exact .inl (setting.again entry settled same)

/-- A sound section stays sound when a note is put into it. -/
theorem Sound.put {sect : Section} (sound : sect.Sound) {note : Entry} (isNote : note.IsNote) :
    (sect.put note).Sound :=
  sound.change (.inr isNote) (fun _ _ _ => .inr isNote) rfl (fun _ _ _ => rfl)

/-- A sound section stays sound when an entry is taken out. -/
theorem Sound.erase {sect : Section} (sound : sect.Sound) (key : Text) :
    (sect.erase key).Sound := by
  have smaller : (Roster.erase Entry.key key sect.entries).Sublist sect.entries :=
    List.eraseP_sublist
  exact ⟨sound.comment, fun entry member => sound.entries entry (smaller.subset member),
    sound.distinct.sublist (smaller.map Entry.key)⟩

end Section

/-! ### Documents -/

namespace Document

/-- A document whose names, entries and comments are as they should be. -/
structure Sound (document : Document) : Prop where
  /-- The global section comes first. -/
  first : document.sectionNames.head? = some none
  /-- Every other section has a name that may be stored. -/
  named : ∀ name, some name ∈ document.sectionNames → StoredName name
  /-- No section stands twice. -/
  distinct : document.sectionNames.Nodup
  /-- Each section is sound. -/
  sections : ∀ sect ∈ document.sections, sect.Sound

/-- The document with nothing in it is sound. -/
theorem sound_empty : empty.Sound := by
  refine ⟨rfl, ?_, ?_, ?_⟩
  · intro name member
    simp [empty, sectionNames, Section.global, Section.new] at member
  · simp [empty, sectionNames]
  · intro sect member
    rw [empty, List.mem_singleton] at member
    rw [member]
    exact Section.sound_new none

/-- A sound document has its global section. -/
theorem Sound.global_mem {document : Document} (sound : document.Sound) :
    none ∈ document.sectionNames :=
  List.mem_of_head? sound.first

/-- Change a section where it stands, or append it, whatever its name. -/
def amend (document : Document) (name : Option Text) (edit : Section → Section) : Document :=
  ⟨Roster.upsert Section.name name (Section.new name none) edit document.sections⟩

/-- Whether a section is there or may be added. -/
def Admits (document : Document) (name : Option Text) : Prop :=
  name ∈ document.sectionNames ∨ ∃ plain, name = some plain ∧ StoredName plain

/-- A section can be found exactly when its trimmed name is one of the names. -/
theorem hasSection_iff {document : Document} {sect : Option Text} :
    document.hasSection sect = true ↔ address sect ∈ document.sectionNames :=
  Roster.isSome_get?_iff Section.name (address sect) document.sections

/-- The name of a section that is there is its own address. -/
theorem Sound.address_eq {document : Document} (sound : document.Sound) {sect : Option Text}
    (present : sect ∈ document.sectionNames) : address sect = sect := by
  cases sect with
  | none => rfl
  | some name => exact congrArg some (sound.named name present).trimmed

/-- A section may be changed exactly when it is there or its trimmed name may be stored. -/
theorem nameFor_eq_ok_iff {document : Document} {sect name : Option Text} (sound : document.Sound) :
    document.nameFor sect = .ok name ↔ name = address sect ∧ document.Admits name := by
  unfold nameFor Admits
  by_cases present : document.hasSection sect = true
  · rw [if_pos present]
    have member := hasSection_iff.mp present
    constructor
    · intro same
      obtain rfl := Except.ok.inj same
      exact ⟨rfl, .inl member⟩
    · rintro ⟨rfl, -⟩
      rfl
  · rw [if_neg present]
    have absent := fun member => present (hasSection_iff.mpr member)
    cases sect with
    | none => exact absurd sound.global_mem absent
    | some given =>
      rw [Option.getD_some]
      constructor
      · intro passed
        cases guarded : Guard.sectionName given with
        | error reason => simp [guarded, Except.map] at passed
        | ok plain =>
          obtain ⟨rfl, stored⟩ := Guard.sectionName_eq_ok_iff.mp guarded
          simp only [guarded, Except.map, Except.ok.injEq] at passed
          exact ⟨passed.symm, .inr ⟨Text.trim given, passed.symm, stored⟩⟩
      · rintro ⟨rfl, present | ⟨plain, same, stored⟩⟩
        · exact absurd present absent
        · obtain rfl := Option.some.inj same
          rw [Guard.sectionName_eq_ok_iff.mpr ⟨rfl, stored⟩]
          rfl

/-- A change succeeds exactly on a section that is there or may be added, and then amends it. -/
theorem change_eq_ok_iff {document changed : Document} {sect : Option Text}
    {edit : Section → Section} (sound : document.Sound) :
    document.change sect edit = .ok changed ↔
      document.Admits (address sect) ∧ changed = document.amend (address sect) edit := by
  unfold change
  simp only [Attempt.bind_eq_ok_iff, nameFor_eq_ok_iff sound, Except.ok.injEq]
  constructor
  · rintro ⟨name, ⟨rfl, admits⟩, same⟩
    exact ⟨admits, same.symm⟩
  · rintro ⟨admits, rfl⟩
    exact ⟨address sect, ⟨rfl, admits⟩, rfl⟩

/-- The names after a change: a new one comes last. -/
theorem sectionNames_amend {document : Document} {name : Option Text} {edit : Section → Section}
    (kept : ∀ sect, sect.name = name → (edit sect).name = name) :
    (document.amend name edit).sectionNames = Roster.enroll name document.sectionNames :=
  Roster.names_upsert _ _ _ _ _ (kept (Section.new name none) rfl) fun sect _ => kept sect

/-- A sound document stays sound when a section that is there or may be added is changed
soundly. -/
theorem Sound.amend {document : Document} (sound : document.Sound) {name : Option Text}
    (admits : document.Admits name) {edit : Section → Section}
    (kept : ∀ sect, sect.name = name → (edit sect).name = name)
    (edited : ∀ sect, sect.Sound → (edit sect).Sound) : (document.amend name edit).Sound := by
  have names := @sectionNames_amend document name edit kept
  refine ⟨?_, ?_, ?_, ?_⟩
  · by_cases present : name ∈ document.sectionNames
    · rw [names, Roster.enroll_of_mem present]
      exact sound.first
    · rw [names, Roster.enroll_of_not_mem present, List.head?_append, sound.first, Option.some_or]
  · intro plain member
    rw [names, Roster.mem_enroll] at member
    rcases member with old | rfl
    · exact sound.named plain old
    · rcases admits with present | ⟨given, same, stored⟩
      · exact sound.named plain present
      · exact Option.some.inj same ▸ stored
  · rw [names]
    exact Roster.nodup_enroll sound.distinct
  · intro sect member
    rcases Roster.mem_upsert _ _ _ _ _ member with old | rfl | ⟨found, inside, -, rfl⟩
    · exact sound.sections sect old
    · exact edited _ (Section.sound_new name)
    · exact edited found (sound.sections found inside)

end Document

end IniKeeper
