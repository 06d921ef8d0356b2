import IniKeeper.Command.Run
import IniKeeper.Proofs.Acceptance
import IniKeeper.Proofs.Jobs
import IniKeeper.Proofs.Layering
import Mathlib.Data.List.Nodup

/-!
# What a merge overrides

A merge puts what a text says, read on its own, over the document: a key that the text has takes
the value of the text, a comment that the text gives takes the place of the old one, and new
sections and keys come behind the old ones. So the document grows by just the keys of the text that
it does not have yet.
-/

namespace IniKeeper

open Command (settingsOf isPresent)

/-! ### Places of settings -/

namespace Document

/-- The places of all settings: the name of the section and the key. -/
def places (document : Document) : List (Option Text × Text) :=
  (settingsOf document).map fun place => (place.1, place.2.key)

/-- There are as many settings as places. -/
theorem keyCount_eq (document : Document) : document.keyCount = document.places.length := by
  rw [places, List.length_map]
  unfold keyCount settingsOf
  induction document.sections with
  | nil => rfl
  | cons sect rest ih =>
    rw [List.foldr_cons, ih, List.flatMap_cons, List.length_append, List.length_map,
      Section.keyCount, List.countP_eq_length_filter]

/-- In a sound document a section is stored under its name. -/
theorem Sound.stored?_eq_some_iff {document : Document} (sound : document.Sound)
    {home : Option Text} {sect : Section} :
    document.stored? home = some sect ↔ sect ∈ document.sections ∧ sect.name = home :=
  Roster.get?_eq_some_iff sound.distinct

/-- The entries of a section of a sound document. -/
theorem Sound.mem_entriesAt {document : Document} (sound : document.Sound) {home : Option Text}
    {entry : Entry} :
    entry ∈ document.entriesAt home ↔
      ∃ sect ∈ document.sections, sect.name = home ∧ entry ∈ sect.entries := by
  unfold entriesAt
  constructor
  · intro member
    cases stored : document.stored? home with
    | none => simp [stored] at member
    | some sect =>
      obtain ⟨inside, named⟩ := sound.stored?_eq_some_iff.mp stored
      rw [stored] at member
      exact ⟨sect, inside, named, member⟩
  · rintro ⟨sect, inside, named, member⟩
    rw [sound.stored?_eq_some_iff.mpr ⟨inside, named⟩]
    exact member

/-- The settings of a sound document are the entries of its sections under keys not made up. -/
theorem Sound.mem_settingsOf {document : Document} (sound : document.Sound)
    {place : Option Text × Entry} :
    place ∈ settingsOf document ↔
      place.2 ∈ document.entriesAt place.1 ∧ Entry.isReserved place.2.key = false := by
  obtain ⟨home, entry⟩ := place
  rw [sound.mem_entriesAt]
  simp only [settingsOf, List.mem_flatMap, List.mem_map, List.mem_filter, Entry.isStandalone_eq,
    Bool.not_eq_true', Prod.mk.injEq]
  constructor
  · rintro ⟨sect, inside, found, ⟨member, unreserved⟩, rfl, rfl⟩
    exact ⟨⟨sect, inside, rfl, member⟩, unreserved⟩
  · rintro ⟨⟨sect, inside, named, member⟩, unreserved⟩
    exact ⟨sect, inside, entry, ⟨member, unreserved⟩, named, rfl⟩

/-- The places of a sound document are its sections with the keys of their settings. -/
theorem Sound.mem_places {document : Document} (sound : document.Sound) {home : Option Text}
    {key : Text} : (home, key) ∈ document.places ↔ key ∈ document.keysAt home := by
  simp only [places, keysAt, List.mem_map, List.mem_filter, sound.mem_settingsOf, Prod.mk.injEq,
    Bool.not_eq_true']
  constructor
  · rintro ⟨place, ⟨member, unreserved⟩, rfl, rfl⟩
    exact ⟨⟨place.2, member, rfl⟩, unreserved⟩
  · rintro ⟨⟨entry, member, rfl⟩, unreserved⟩
    exact ⟨(home, entry), ⟨member, unreserved⟩, rfl, rfl⟩

/-- No place stands twice in a sound document. -/
theorem Sound.nodup_places {document : Document} (sound : document.Sound) :
    document.places.Nodup := by
  have listed : document.places = document.sections.flatMap fun sect =>
      (sect.entries.filter fun entry => !entry.isStandalone).map fun entry =>
        (sect.name, entry.key) := by
    simp [places, settingsOf, List.map_flatMap, Function.comp_def]
  rw [listed, List.nodup_flatMap]
  constructor
  · intro sect member
    have distinct := (sound.sections sect member).distinct
    have fewer : (sect.entries.filter fun entry => !entry.isStandalone).Sublist sect.entries :=
      List.filter_sublist
    have keys := distinct.sublist (fewer.map Entry.key)
    exact List.Nodup.of_map Prod.snd (by simpa [Function.comp_def] using keys)
  · have distinct : document.sections.Pairwise fun one other => one.name ≠ other.name :=
      List.pairwise_map.mp sound.distinct
    refine distinct.imp fun {one other} different => ?_
    intro place here there
    obtain ⟨_, -, same⟩ := List.mem_map.mp here
    obtain ⟨_, -, again⟩ := List.mem_map.mp there
    exact different ((congrArg Prod.fst same).trans (congrArg Prod.fst again).symm)

/-- The keys of a section of a sound document are distinct. -/
theorem Sound.distinct_entriesAt {document : Document} (sound : document.Sound)
    (home : Option Text) : ((document.entriesAt home).map Entry.key).Nodup := by
  unfold entriesAt
  cases stored : document.stored? home with
  | none => exact List.nodup_nil
  | some sect =>
    obtain ⟨inside, -⟩ := sound.stored?_eq_some_iff.mp stored
    exact (sound.sections sect inside).distinct

/-- A setting of a sound document stands at an address, and its entry is a setting. -/
theorem Sound.of_mem_settingsOf {document : Document} (sound : document.Sound)
    {place : Option Text × Entry} (member : place ∈ settingsOf document) :
    address place.1 = place.1 ∧ place.2.IsSetting := by
  obtain ⟨stands, unreserved⟩ := sound.mem_settingsOf.mp member
  obtain ⟨sect, inside, named, holds⟩ := sound.mem_entriesAt.mp stands
  constructor
  · exact sound.address_eq (named ▸ List.mem_map_of_mem inside)
  · rcases (sound.sections sect inside).entries place.2 holds with setting | note
    · exact setting
    · have reserved := note.isStandalone
      rw [Entry.isStandalone_eq, unreserved] at reserved
      contradiction

/-- A sound document finds each of its settings where it stands. -/
theorem Sound.entry?_of_mem {document : Document} (sound : document.Sound)
    {place : Option Text × Entry} (member : place ∈ settingsOf document) :
    document.entry? place.1 place.2.key = some place.2 := by
  obtain ⟨home, setting⟩ := sound.of_mem_settingsOf member
  have trimmed : Text.trim place.2.key = place.2.key := setting.key.trimmed
  rw [entry?_eq, home, trimmed]
  exact (Roster.get?_eq_some_iff (sound.distinct_entriesAt place.1)).mpr
    ⟨(sound.mem_settingsOf.mp member).1, rfl⟩

/-- A sound document reads each of its settings as the text of its value. -/
theorem Sound.value?_of_mem {document : Document} (sound : document.Sound)
    {place : Option Text × Entry} (member : place ∈ settingsOf document) :
    document.value? place.1 place.2.key = some place.2.valueText := by
  obtain ⟨-, setting⟩ := sound.of_mem_settingsOf member
  obtain ⟨value, holds, -⟩ := setting.value
  rw [value?, sound.entry?_of_mem member, Entry.valueText, holds]
  exact holds

/-- Whether a setting of one document is present in another, both sound. -/
theorem Sound.isPresent_iff {document other : Document} (sound : document.Sound)
    (otherSound : other.Sound) {place : Option Text × Entry} (member : place ∈ settingsOf other) :
    isPresent document place = true ↔ (place.1, place.2.key) ∈ document.places := by
  obtain ⟨home, setting⟩ := otherSound.of_mem_settingsOf member
  have trimmed : Text.trim place.2.key = place.2.key := setting.key.trimmed
  have unreserved := (otherSound.mem_settingsOf.mp member).2
  rw [isPresent, hasKey, entry?_eq, home, trimmed, sound.mem_places, entryAt?,
    Roster.isSome_get?_iff, keysAt, List.mem_filter, unreserved]
  simp

end Document

/-! ### What lies over a document overrides it -/

/-- Whether a document is another with what a third one says put over it. Names and keys that are
looked up need not be trimmed. -/
structure Document.Overrides (document incoming merged : Document) : Prop where
  /-- A value is the incoming one where that has the key, and the old one elsewhere. -/
  value : ∀ sect key, Entry.isReserved (Text.trim key) = false →
    merged.value? sect key =
      if incoming.hasKey sect key then incoming.value? sect key else document.value? sect key
  /-- A comment is the incoming one where that has the key with a comment, and the old one
  elsewhere. -/
  comment : ∀ sect key, Entry.isReserved (Text.trim key) = false →
    merged.comment? sect key = (incoming.comment? sect key).or (document.comment? sect key)
  /-- The comment of a named section is the incoming one, if there is one, and else the old one. -/
  sectionComment : ∀ name, merged.sectionComment? (some name) =
    (incoming.sectionComment? (some name)).or (document.sectionComment? (some name))
  /-- New sections come behind the old ones, in order. -/
  sectionNames : merged.sectionNames = Roster.extend document.sectionNames incoming.sectionNames
  /-- New keys of a section come behind its old ones, in order. -/
  keys : ∀ home, merged.keysAt home = Roster.extend (document.keysAt home) (incoming.keysAt home)

namespace Layers

variable {lower upper whole : Document}

/-- What lies over a document overrides it. -/
theorem overrides (layers : Layers lower upper whole) : lower.Overrides upper whole where
  value sect key unreserved := by
    have entry := layers.entries (Document.address sect) (Text.trim key) unreserved
    simp only [Document.value?, Document.hasKey, Document.entry?_eq, entry]
    cases upper.entryAt? (Document.address sect) (Text.trim key) <;> rfl
  comment sect key unreserved := by
    have entry := layers.entries (Document.address sect) (Text.trim key) unreserved
    simp only [Document.comment?, Document.entry?_eq, entry]
    cases upper.entryAt? (Document.address sect) (Text.trim key) <;> rfl
  sectionComment name := layers.comments (Text.trim name)
  sectionNames := layers.names
  keys := layers.keys

/-- The whole grows by the settings above that are not present below. -/
theorem keyCount_eq (layers : Layers lower upper whole) (lowerSound : lower.Sound)
    (upperSound : upper.Sound) (wholeSound : whole.Sound) :
    whole.keyCount =
      lower.keyCount + (settingsOf upper).countP fun place => !isPresent lower place := by
  have distinct : (Roster.extend lower.places upper.places).Nodup :=
    Roster.nodup_extend lowerSound.nodup_places upperSound.nodup_places
  -- Neither list of places has repetitions and both have the same members, so they are as long.
  have same : whole.places.Perm (Roster.extend lower.places upper.places) := by
    rw [List.perm_ext_iff_of_nodup wholeSound.nodup_places distinct]
    rintro ⟨home, key⟩
    rw [Roster.mem_extend, wholeSound.mem_places, lowerSound.mem_places, upperSound.mem_places,
      layers.keys home, Roster.mem_extend]
  rw [Document.keyCount_eq, Document.keyCount_eq, same.length_eq, Roster.length_extend]
  refine congrArg (lower.places.length + ·) ?_
  have listed : upper.places = (settingsOf upper).map fun place => (place.1, place.2.key) := rfl
  rw [listed, List.countP_map]
  refine List.countP_congr fun place member => ?_
  have present := lowerSound.isPresent_iff upperSound member
  simp [← present]

end Layers

/-! ### The preview -/

namespace Command

/-- What stands above the rows of a preview. -/
def previewHead (incoming : Document) : List Emission :=
  [.output ['\n'],
    .output ("Found ".toList ++ Event.count incoming.keyCount ++ " keys:".toList ++ ['\n']),
    .output ['\n']]

/-- The rows of a preview: one for each incoming setting, marked by whether it is present. -/
def previewRows (current incoming : Document) : List Emission :=
  (settingsOf incoming).map fun place =>
    .output (Listing.previewRow (isPresent current place) place.1 place.2 ++ ['\n'])

/-- What stands below the rows: the warnings on the text, and how many settings are overwritten. -/
def previewFoot (current incoming : Document) (report : Report) : List Emission :=
  let overwritten := (settingsOf incoming).countP (isPresent current)
  .output ['\n'] ::
    (report.warnings.map (fun warning =>
        .output ("⚠ ".toList ++ Listing.warningText warning ++ ['\n'])) ++
      if 0 < overwritten then
        [.output ("⚠ ".toList ++
          (Event.count overwritten ++ " existing keys will be overwritten".toList) ++ ['\n'])]
      else [])

/-- The preview shows its rows and what stands around them, and does nothing else. -/
theorem shows_preview (current incoming : Document) (report : Report) :
    Job.Shows (preview current incoming report)
      (previewHead incoming ++ (previewRows current incoming ++
        previewFoot current incoming report)) := by
  have rows := Job.Shows.forM (fun place : Option Text × Entry => Job.shows_putLine
    (Listing.previewRow (isPresent current place) place.1 place.2)) (settingsOf incoming)
  have warnings := Job.Shows.forM (fun warning : Warning => Job.shows_putLine
    ("⚠ ".toList ++ Listing.warningText warning)) report.warnings
  have remark : Job.Shows
      (if 0 < (settingsOf incoming).countP (isPresent current) then
        Context.warn (Event.count ((settingsOf incoming).countP (isPresent current)) ++
          " existing keys will be overwritten".toList)
      else pure ())
      (if 0 < (settingsOf incoming).countP (isPresent current) then
        [.output ("⚠ ".toList ++ (Event.count ((settingsOf incoming).countP (isPresent current)) ++
          " existing keys will be overwritten".toList) ++ ['\n'])]
      else []) := by
    split
    · exact Job.shows_putLine _
    · exact Job.shows_pure
  exact (Job.shows_putLine _).seq ((Job.shows_putLine _).seq ((Job.shows_putLine _).seq
    (rows.seq ((Job.shows_putLine _).seq (warnings.seq remark)))))

end Command

/-! ### Merging -/

namespace Session

variable {content : Text}

/-- A text of well-formed lines is loaded into a new session. -/
theorem load_of_wellFormed (wellFormed : ∀ raw ∈ Text.lines content, Line.WellFormed raw)
    (origin : Text) :
    (new.load origin content).result = .ok (Rows.report (Text.lines content)) ∧
      (new.load origin content).session.document =
        (Document.empty.parse origin content).document := by
  have ended := (Document.parse_of_wellFormed Document.sound_empty origin wellFormed).1
  simp [load, new, ended]

/-- A text of well-formed lines is merged into a sound document. -/
theorem merge_of_wellFormed (wellFormed : ∀ raw ∈ Text.lines content, Line.WellFormed raw)
    {session : Session} (sound : session.document.Sound) (origin : Text) :
    (session.merge origin content).result = .ok (Rows.report (Text.lines content)) ∧
      (session.merge origin content).session.document =
        (session.document.parse origin content).document := by
  have ended := (Document.parse_of_wellFormed sound origin wellFormed).1
  simp [merge, ended]

/-- A text that can be loaded has well-formed lines only. -/
theorem wellFormed_of_load {origin : Text} {report : Report}
    (loaded : (new.load origin content).result = .ok report) :
    ∀ raw ∈ Text.lines content, Line.WellFormed raw := by
  rw [← Document.isOk_parse_iff Document.sound_empty origin content]
  cases ended : (Document.empty.parse origin content).result with
  | ok found => exact ⟨found, rfl⟩
  | error fault => simp [load, new, ended] at loaded

/-- A text that can be merged into a sound document has well-formed lines only. -/
theorem wellFormed_of_merge {session : Session} (sound : session.document.Sound) {origin : Text}
    {report : Report} (merged : (session.merge origin content).result = .ok report) :
    ∀ raw ∈ Text.lines content, Line.WellFormed raw := by
  rw [← Document.isOk_parse_iff sound origin content]
  cases ended : (session.document.parse origin content).result with
  | ok found => exact ⟨found, rfl⟩
  | error fault => simp [merge, ended] at merged

end Session

end IniKeeper
