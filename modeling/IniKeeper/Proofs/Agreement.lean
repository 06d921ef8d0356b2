import IniKeeper.Proofs.Merging
import IniKeeper.Proofs.RoundTrip

/-!
# Documents that agree

Two documents agree when they have the same sections in the same order, in each the same settings in
the same order, and the same values, so that they differ in their comments at most. Every operation
does the same to documents that agree: it fails for the same reason on both, or what it makes of
them agrees again. Writing a document and reading it back gives one that agrees with it.
-/

namespace IniKeeper

namespace Document

variable {document other : Document}

/-! ### Values -/

/-- The value that is stored under a key. -/
def valueAt? (document : Document) (home : Option Text) (key : Text) : Option Text :=
  (document.entryAt? home key).bind Entry.value

/-- A value is looked up under its trimmed key in the section of the trimmed name. -/
theorem value?_eq (document : Document) (sect : Option Text) (key : Text) :
    document.value? sect key = document.valueAt? (address sect) (Text.trim key) := by
  unfold value? valueAt?
  rw [entry?_eq]
  rfl

/-- A section that is missing has no entries. -/
theorem entriesAt_of_not_mem {home : Option Text} (absent : home ∉ document.sectionNames) :
    document.entriesAt home = [] := by
  have missing : document.stored? home = none := by
    rw [← Option.not_isSome_iff_eq_none]
    exact fun found => absent ((Roster.isSome_get?_iff Section.name home _).mp found)
  rw [entriesAt, missing]
  rfl

/-- A setting is stored under each of the keys of a section, and under no other that is not made
up. -/
theorem isSome_entryAt?_iff {home : Option Text} {key : Text}
    (unreserved : Entry.isReserved key = false) :
    (document.entryAt? home key).isSome = true ↔ key ∈ document.keysAt home := by
  rw [entryAt?, Roster.isSome_get?_iff, keysAt, List.mem_filter, unreserved]
  simp

/-- Nothing is stored under a key that is none of a section. -/
theorem valueAt?_of_not_mem {home : Option Text} {key : Text}
    (unreserved : Entry.isReserved key = false) (absent : key ∉ document.keysAt home) :
    document.valueAt? home key = none := by
  have missing : document.entryAt? home key = none := by
    rw [← Option.not_isSome_iff_eq_none, isSome_entryAt?_iff unreserved]
    exact absent
  rw [valueAt?, missing]
  rfl

/-- The settings among some entries, in order. -/
theorem flatMap_settings (entries : List Entry) :
    (entries.flatMap fun entry =>
        if entry.isStandalone then [] else [(entry.key, entry.value)]) =
      (entries.filter fun entry => !Entry.isReserved entry.key).map fun entry =>
        (entry.key, entry.value) := by
  induction entries with
  | nil => rfl
  | cons entry rest ih =>
    rw [List.flatMap_cons, ih, Entry.isStandalone_eq]
    cases reserved : Entry.isReserved entry.key with
    | true => simp [reserved]
    | false => simp [reserved]

/-- The outline of a sound document, told by its names, keys and values. -/
theorem Sound.outline_eq (sound : document.Sound) :
    document.outline = document.sectionNames.map fun home =>
      (home, (document.keysAt home).map fun key => (key, document.valueAt? home key)) := by
  rw [outline, ← List.map_eq_flatMap, sectionNames, List.map_map]
  refine List.map_congr_left fun sect member => congrArg (Prod.mk sect.name) ?_
  have stored : document.stored? sect.name = some sect :=
    sound.stored?_eq_some_iff.mpr ⟨member, rfl⟩
  have entries : document.entriesAt sect.name = sect.entries := by rw [entriesAt, stored]; rfl
  have distinct := (sound.sections sect member).distinct
  rw [flatMap_settings, keysAt, entries, List.filter_map, List.map_map]
  refine List.map_congr_left fun entry inside => congrArg (Prod.mk entry.key) ?_
  have found : document.entryAt? sect.name entry.key = some entry := by
    rw [entryAt?, entries]
    exact (Roster.get?_eq_some_iff distinct).mpr ⟨(List.mem_filter.mp inside).1, rfl⟩
  rw [valueAt?, found]
  rfl

/-! ### Agreement -/

/-- Whether two documents have the same sections, settings and values in the same order. -/
structure Agrees (document other : Document) : Prop where
  /-- The sections are the same. -/
  names : document.sectionNames = other.sectionNames
  /-- The settings of each section are the same. -/
  keys : ∀ home, document.keysAt home = other.keysAt home
  /-- The values of the settings are the same. -/
  values : ∀ home key, Entry.isReserved key = false →
    document.valueAt? home key = other.valueAt? home key

/-- A document agrees with itself. -/
theorem Agrees.refl (document : Document) : document.Agrees document :=
  ⟨rfl, fun _ => rfl, fun _ _ _ => rfl⟩

/-- Documents agree if one agrees with a third and that with the other. -/
theorem Agrees.trans {third : Document} (agrees : document.Agrees other)
    (further : other.Agrees third) : document.Agrees third :=
  ⟨agrees.names.trans further.names, fun home => (agrees.keys home).trans (further.keys home),
    fun home key unreserved =>
      (agrees.values home key unreserved).trans (further.values home key unreserved)⟩

/-- Sound documents agree exactly when they have the same outline. -/
theorem Sound.agrees_iff (sound : document.Sound) (otherSound : other.Sound) :
    document.Agrees other ↔ document.outline = other.outline := by
  rw [sound.outline_eq, otherSound.outline_eq]
  constructor
  · intro agrees
    rw [agrees.names]
    refine List.map_congr_left fun home _ => congrArg (Prod.mk home) ?_
    rw [agrees.keys home]
    refine List.map_congr_left fun key member => congrArg (Prod.mk key) ?_
    exact agrees.values home key (by simpa using (List.mem_filter.mp member).2)
  · intro same
    have names : document.sectionNames = other.sectionNames := by
      have firsts := congrArg (List.map Prod.fst) same
      simpa [Function.comp_def] using firsts
    rw [names] at same
    have each := List.map_inj_left.mp same
    have keys : ∀ home, document.keysAt home = other.keysAt home := by
      intro home
      by_cases present : home ∈ other.sectionNames
      · have firsts := congrArg (List.map Prod.fst) (congrArg Prod.snd (each home present))
        simpa [Function.comp_def] using firsts
      · rw [keysAt, keysAt, entriesAt_of_not_mem present, entriesAt_of_not_mem (names ▸ present)]
    refine ⟨names, keys, fun home key unreserved => ?_⟩
    by_cases present : home ∈ other.sectionNames
    · by_cases inside : key ∈ other.keysAt home
      · have pairs := congrArg Prod.snd (each home present)
        simp only [keys home] at pairs
        exact congrArg Prod.snd (List.map_inj_left.mp pairs key inside)
      · rw [valueAt?_of_not_mem unreserved inside,
          valueAt?_of_not_mem unreserved (keys home ▸ inside)]
    · rw [valueAt?, valueAt?, entryAt?, entryAt?, entriesAt_of_not_mem present,
        entriesAt_of_not_mem (names ▸ present)]

/-- Documents that agree have the same keys that are not made up. -/
theorem Agrees.hasKey_eq (agrees : document.Agrees other) (sect : Option Text) {key : Text}
    (unreserved : Entry.isReserved (Text.trim key) = false) :
    document.hasKey sect key = other.hasKey sect key := by
  rw [Bool.eq_iff_iff, hasKey, hasKey, entry?_eq, entry?_eq, isSome_entryAt?_iff unreserved,
    isSome_entryAt?_iff unreserved, agrees.keys]

/-- Documents that agree have the same values under keys that are not made up. -/
theorem Agrees.getString_eq (agrees : document.Agrees other) (sect : Option Text) {key : Text}
    (unreserved : Entry.isReserved (Text.trim key) = false) (default : Text) :
    document.getString sect key default = other.getString sect key default := by
  rw [getString, getString, value?_eq, value?_eq, agrees.values _ _ unreserved]

/-! ### Writes -/

/-- Whether two attempts at a new document have the same outcome: the same fault, or documents that
agree. -/
inductive Alike : Except Fault Document → Except Fault Document → Prop where
  /-- Both give a document, and the documents agree. -/
  | ok {document other : Document} (agrees : document.Agrees other) :
      Alike (.ok document) (.ok other)
  /-- Both fail, for the same reason. -/
  | error (fault : Fault) : Alike (.error fault) (.error fault)

/-- A guard in front of two attempts has the same outcome for both. -/
theorem Alike.guarded {α β γ : Type} {guard : Except Refusal α}
    {next : α → Except Refusal (Document × β)} {more : α → Except Refusal (Document × γ)}
    (each : ∀ passed, guard = .ok passed →
      Alike ((refuse (next passed)).map Prod.fst) ((refuse (more passed)).map Prod.fst)) :
    Alike ((refuse (guard >>= next)).map Prod.fst) ((refuse (guard >>= more)).map Prod.fst) := by
  cases guard with
  | error reason => exact .error (.refused reason)
  | ok passed => exact each passed rfl

/-- Documents that agree admit the same section names. -/
theorem Agrees.nameFor_eq (agrees : document.Agrees other) (sect : Option Text) :
    document.nameFor sect = other.nameFor sect := by
  have present : document.hasSection sect = other.hasSection sect := by
    rw [Bool.eq_iff_iff, hasSection_iff, hasSection_iff, agrees.names]
  rw [nameFor, nameFor, present]

/-- Where the value that an edit makes of an entry hangs on the value before, the edit of one entry
in documents that agree makes documents that agree. -/
theorem Agrees.amend_change (agrees : document.Agrees other) {key : Text} {edit : Entry → Entry}
    {value : Option Text → Option Text}
    (keyed : ∀ entry, entry.key = key → (edit entry).key = key)
    (valued : ∀ entry, (edit entry).value = value entry.value) (home : Option Text) :
    (document.amend home fun found => found.change key edit).Agrees
      (other.amend home fun found => found.change key edit) where
  names := by
    have after (document : Document) :
        (document.amend home fun sect => sect.change key edit).sectionNames =
          Roster.enroll home document.sectionNames := sectionNames_amend fun _ named => named
    rw [after, after, agrees.names]
  keys elsewhere := by
    rw [keysAt_amend_change keyed, keysAt_amend_change keyed, agrees.keys]
  values elsewhere found unreservedFound := by
    have after (document : Document) :
        (document.amend home fun sect => sect.change key edit).valueAt? elsewhere found =
          if home = elsewhere ∧ key = found then value (document.valueAt? elsewhere found)
          else document.valueAt? elsewhere found := by
      unfold valueAt? entryAt?
      rw [entriesAt_amend_change]
      by_cases same : home = elsewhere
      · rw [if_pos same]
        by_cases here : key = found
        · subst here
          rw [if_pos ⟨same, rfl⟩, Roster.get?_upsert_self _ _ _ _ _ (keyed _ rfl)
            fun entry _ => keyed entry]
          cases Roster.get? Entry.key key (document.entriesAt elsewhere) with
          | none => exact valued (Entry.new key)
          | some entry => exact valued entry
        · rw [if_neg fun both => here both.2, Roster.get?_upsert_other _ _ _ _ _ _ (Ne.symm here)
            (keyed _ rfl) fun entry _ => keyed entry]
      · rw [if_neg same, if_neg fun both => same both.1]
    rw [after, after, agrees.values elsewhere found unreservedFound]

/-- An edit of one entry has the same outcome for documents that agree. -/
theorem Agrees.changeEntry {β γ : Type} (agrees : document.Agrees other) {key : Text}
    {edit : Entry → Entry} (value : Option Text → Option Text)
    (keyed : ∀ entry, entry.key = key → (edit entry).key = key)
    (valued : ∀ entry, (edit entry).value = value entry.value) (sect : Option Text) (before : β)
    (again : γ) :
    Alike
      ((refuse (document.changeEntry sect key edit >>= fun changed =>
        .ok (changed, before))).map Prod.fst)
      ((refuse (other.changeEntry sect key edit >>= fun changed =>
        .ok (changed, again))).map Prod.fst) := by
  unfold Document.changeEntry change
  rw [agrees.nameFor_eq]
  cases other.nameFor sect with
  | error reason => exact .error (.refused reason)
  | ok name => exact .ok (agrees.amend_change keyed valued name)

/-- Setting a value has the same outcome for documents that agree. -/
theorem Agrees.setString (agrees : document.Agrees other) (sect : Option Text)
    (key value : Text) :
    Alike ((refuse (document.setString sect key value)).map Prod.fst)
      ((refuse (other.setString sect key value)).map Prod.fst) := by
  unfold Document.setString
  refine Alike.guarded fun ⟨stored, text⟩ _ => ?_
  refine agrees.changeEntry (fun _ => some text) ?_ ?_ sect _ _
  · exact fun _ named => named
  · exact fun _ => rfl

/-- Setting a value and replacing the comment has the same outcome for documents that agree. -/
theorem Agrees.setStringWithComment (agrees : document.Agrees other) (sect : Option Text)
    (key value : Text) (comment : Option Text) :
    Alike ((refuse (document.setStringWithComment sect key value comment)).map Prod.fst)
      ((refuse (other.setStringWithComment sect key value comment)).map Prod.fst) := by
  unfold Document.setStringWithComment
  refine Alike.guarded fun _ _ => Alike.guarded fun ⟨stored, text⟩ _ => ?_
  refine agrees.changeEntry (fun _ => some text) ?_ ?_ sect _ _
  · exact fun _ named => named
  · exact fun _ => rfl

/-- Replacing a comment, which sets the empty value where there is none, has the same outcome for
documents that agree. -/
theorem Agrees.setComment (agrees : document.Agrees other) (sect : Option Text) (key : Text)
    (comment : Option Text) :
    Alike ((refuse (document.setComment sect key comment)).map Prod.fst)
      ((refuse (other.setComment sect key comment)).map Prod.fst) := by
  unfold Document.setComment
  refine Alike.guarded fun _ _ => Alike.guarded fun ⟨stored, text⟩ _ => ?_
  refine agrees.changeEntry (fun value => some (value.getD [])) ?_ ?_ sect _ _
  · exact fun _ named => named
  · exact fun _ => rfl

/-! ### Removals -/

/-- The entries after a key was removed are the others. -/
theorem Sound.entriesAt_removingKey (sound : document.Sound) (sect : Option Text) (key : Text)
    (home : Option Text) :
    (document.removingKey sect key).entriesAt home =
      if address sect = home then
        (document.entriesAt home).filter fun entry => entry.key ≠ Text.trim key
      else document.entriesAt home := by
  unfold Document.removingKey
  cases done : document.removeKey sect key with
  | none =>
    have absent : document.entryAt? (address sect) (Text.trim key) = none := by
      rw [← entry?_eq, Option.eq_none_iff_forall_ne_some]
      unfold removeKey at done
      simpa using done
    have others := List.find?_eq_none.mp absent
    by_cases same : address sect = home
    · subst same
      rw [if_pos rfl,
        List.filter_eq_self.mpr fun entry member => by simpa using others entry member]
      rfl
    · rw [if_neg same]
      rfl
  | some removed =>
    obtain ⟨-, amended⟩ := removeKey_eq_some done
    rw [Option.map_some, Option.getD_some, amended]
    have changed := @entriesAt_amend document (address sect)
      (fun found => found.erase (Text.trim key)) (Roster.erase Entry.key (Text.trim key))
      (fun _ named => named) (fun _ => rfl) home
    rw [changed, Roster.erase_eq_filter (sound.distinct_entriesAt home)]

/-- The names of the sections stay when a key is removed. -/
theorem sectionNames_removingKey (document : Document) (sect : Option Text) (key : Text) :
    (document.removingKey sect key).sectionNames = document.sectionNames := by
  unfold Document.removingKey
  cases done : document.removeKey sect key with
  | none => rfl
  | some removed =>
    obtain ⟨present, amended⟩ := removeKey_eq_some done
    rw [Option.map_some, Option.getD_some, amended]
    have names : (document.amend (address sect) fun found =>
          found.erase (Text.trim key)).sectionNames =
        Roster.enroll (address sect) document.sectionNames :=
      sectionNames_amend fun _ named => named
    rw [names, Roster.enroll_of_mem present]

/-- Removing a key from sound documents that agree makes documents that agree. -/
theorem Agrees.removingKey (agrees : document.Agrees other) (sound : document.Sound)
    (otherSound : other.Sound) (sect : Option Text) (key : Text) :
    (document.removingKey sect key).Agrees (other.removingKey sect key) where
  names := by rw [sectionNames_removingKey, sectionNames_removingKey, agrees.names]
  keys home := by
    have after {document : Document} (sound : document.Sound) :
        (document.removingKey sect key).keysAt home =
          if address sect = home then
            (document.keysAt home).filter fun found => found ≠ Text.trim key
          else document.keysAt home := by
      have others : ((document.entriesAt home).map Entry.key).filter
            (fun found => found ≠ Text.trim key) =
          ((document.entriesAt home).filter fun entry => entry.key ≠ Text.trim key).map
            Entry.key := by
        rw [List.filter_map]
        rfl
      unfold keysAt
      rw [sound.entriesAt_removingKey, List.filter_comm, others]
      split <;> rfl
    rw [after sound, after otherSound, agrees.keys]
  values home found unreserved := by
    have after {document : Document} (sound : document.Sound) :
        (document.removingKey sect key).valueAt? home found =
          if address sect = home ∧ found = Text.trim key then none
          else document.valueAt? home found := by
      unfold valueAt? entryAt? Roster.get?
      rw [sound.entriesAt_removingKey]
      by_cases same : address sect = home
      · rw [if_pos same, List.find?_filter]
        by_cases here : found = Text.trim key
        · subst here
          rw [if_pos ⟨same, rfl⟩, List.find?_eq_none.mpr fun entry _ => by simp]
          rfl
        · rw [if_neg fun both => here both.2]
          refine congrArg (Option.bind · Entry.value)
            (congrArg (List.find? · (document.entriesAt home)) (funext fun entry => ?_))
          by_cases named : entry.key = found
          · simp [named, here]
          · simp [named]
      · rw [if_neg same, if_neg fun both => same both.1]
    rw [after sound, after otherSound, agrees.values home found unreserved]

/-- The sections after a section was removed are the others. -/
theorem Sound.sections_removingSection (sound : document.Sound) (name : Text) :
    (document.removingSection (some name)).sections =
      document.sections.filter fun sect => sect.name ≠ some (Text.trim name) := by
  unfold Document.removingSection
  cases done : document.removeSection (some name) with
  | none =>
    have absent : document.stored? (some (Text.trim name)) = none := by
      rw [Option.eq_none_iff_forall_ne_some]
      unfold removeSection at done
      simpa [section?_eq, address] using done
    have others := List.find?_eq_none.mp absent
    exact (List.filter_eq_self.mpr fun sect member => by simpa using others sect member).symm
  | some removed =>
    rw [Option.map_some, Option.getD_some, (removeSection_eq_some done).2]
    exact Roster.erase_eq_filter sound.distinct (some (Text.trim name))

/-- The entries of the section that was removed are gone, all others stay. -/
theorem Sound.entriesAt_removingSection (sound : document.Sound) (name : Text)
    (home : Option Text) :
    (document.removingSection (some name)).entriesAt home =
      if some (Text.trim name) = home then [] else document.entriesAt home := by
  unfold entriesAt stored? Roster.get?
  rw [sound.sections_removingSection, List.find?_filter]
  by_cases same : some (Text.trim name) = home
  · subst same
    rw [if_pos rfl, List.find?_eq_none.mpr fun sect _ => by simp]
    rfl
  · rw [if_neg same]
    refine congrArg (fun found : Option Section => (found.map Section.entries).getD [])
      (congrArg (List.find? · document.sections) (funext fun sect => ?_))
    by_cases named : sect.name = home
    · simp [named, Ne.symm same]
    · simp [named]

/-- Removing a section from sound documents that agree makes documents that agree. -/
theorem Agrees.removingSection (agrees : document.Agrees other) (sound : document.Sound)
    (otherSound : other.Sound) (name : Text) :
    (document.removingSection (some name)).Agrees (other.removingSection (some name)) where
  names := by
    have after {document : Document} (sound : document.Sound) :
        (document.removingSection (some name)).sectionNames =
          document.sectionNames.filter fun found => found ≠ some (Text.trim name) := by
      rw [sectionNames, sound.sections_removingSection, sectionNames, List.filter_map]
      rfl
    rw [after sound, after otherSound, agrees.names]
  keys home := by
    have after {document : Document} (sound : document.Sound) :
        (document.removingSection (some name)).keysAt home =
          if some (Text.trim name) = home then [] else document.keysAt home := by
      rw [keysAt, sound.entriesAt_removingSection]
      split <;> rfl
    rw [after sound, after otherSound, agrees.keys]
  values home key unreserved := by
    have after {document : Document} (sound : document.Sound) :
        (document.removingSection (some name)).valueAt? home key =
          if some (Text.trim name) = home then none else document.valueAt? home key := by
      rw [valueAt?, entryAt?, sound.entriesAt_removingSection]
      split <;> rfl
    rw [after sound, after otherSound, agrees.values home key unreserved]

/-! ### Texts -/

/-- One text over documents that agree makes documents that agree. -/
theorem Agrees.layers {upper whole more : Document} (agrees : document.Agrees other)
    (layers : Layers document upper whole) (further : Layers other upper more) :
    whole.Agrees more where
  names := by rw [layers.names, further.names, agrees.names]
  keys home := by rw [layers.keys, further.keys, agrees.keys]
  values home key unreserved := by
    have before := agrees.values home key unreserved
    rw [valueAt?, valueAt?, layers.entries home key unreserved,
      further.entries home key unreserved]
    cases upper.entryAt? home key with
    | none => exact before
    | some entry => rfl

/-- The document after a text was merged into it, or the fault of the text. -/
def merging (document : Document) (origin content : Text) : Except Fault Document :=
  let answer := Session.merge ⟨document, none⟩ origin content
  answer.result.map fun _ => answer.session.document

/-- A text of well-formed lines is merged by reading it. -/
theorem Sound.merging_of_wellFormed (sound : document.Sound) (origin : Text) {content : Text}
    (wellFormed : ∀ raw ∈ Text.lines content, Line.WellFormed raw) :
    document.merging origin content = .ok (document.parse origin content).document := by
  obtain ⟨accepted, stored⟩ :=
    @Session.merge_of_wellFormed content wellFormed ⟨document, none⟩ sound origin
  simp only [merging, accepted, stored]
  rfl

/-- A text with a line that is not well formed is at fault, when it is merged, at the first such
line. -/
theorem Sound.merging_of_offence (sound : document.Sound) (origin : Text) {content raw : Text}
    {front rest : List Text} (rows : Text.lines content = front ++ raw :: rest)
    (above : ∀ row ∈ front, Line.WellFormed row) (offends : ¬ Line.WellFormed raw) :
    document.merging origin content = .error (.badLine origin (front.length + 1) raw) := by
  have fault := (parse_of_offence sound origin rows above offends).1
  simp only [merging, Session.merge, fault]
  rfl

/-- Merging a text keeps a document sound. -/
theorem Sound.of_merging (sound : document.Sound) {origin content : Text} {changed : Document}
    (merged : document.merging origin content = .ok changed) : changed.Sound := by
  rcases wellFormed_or_exists_offence (Text.lines content) with
    wellFormed | ⟨front, raw, rest, rows, above, offends⟩
  · rw [sound.merging_of_wellFormed origin wellFormed] at merged
    exact Except.ok.inj merged ▸ sound.parse origin content
  · rw [sound.merging_of_offence origin rows above offends] at merged
    contradiction

/-- Merging a text has the same outcome for sound documents that agree. -/
theorem Agrees.merging (agrees : document.Agrees other) (sound : document.Sound)
    (otherSound : other.Sound) (origin content : Text) :
    Alike (document.merging origin content) (other.merging origin content) := by
  rcases wellFormed_or_exists_offence (Text.lines content) with
    wellFormed | ⟨front, raw, rest, rows, above, offends⟩
  · rw [sound.merging_of_wellFormed origin wellFormed,
      otherSound.merging_of_wellFormed origin wellFormed]
    exact .ok (agrees.layers (sound.layers_parse origin origin wellFormed)
      (otherSound.layers_parse origin origin wellFormed))
  · rw [sound.merging_of_offence origin rows above offends,
      otherSound.merging_of_offence origin rows above offends]
    exact .error _

/-- A sound document that is written and read back is sound and agrees with itself before. -/
theorem Sound.reread (sound : document.Sound) (padded : Bool) (origin : Text) :
    ∃ report, (empty.parse origin (document.render padded)).result = .ok report ∧
      (empty.parse origin (document.render padded)).document.Agrees document := by
  obtain ⟨report, accepted, -, stored⟩ := sound.parse_render padded origin
  have rereadSound : (empty.parse origin (document.render padded)).document.Sound :=
    sound_empty.parse origin (document.render padded)
  refine ⟨report, accepted, (rereadSound.agrees_iff sound).mpr ?_⟩
  rw [stored]
  exact outline_normal padded document

end Document

end IniKeeper
