import IniKeeper.Proofs.Agreement
import IniKeeper.Proofs.Invariance

/-!
# What one write changes

A document is an ordered map: an address, which is the name of a section and a key, both trimmed,
leads to an entry, and names and keys stand in an order. A setter puts one entry at one address and
a removal takes one away. Lookups of every other address, the comments of sections and the order of
all that was there stay; what is new comes last. Lookups and order together determine a document,
so these laws leave nothing open.
-/

namespace IniKeeper

open Guard (StoredKey StoredName)

/-! ### Keys are trimmed -/

/-- A text without white space is trimmed. -/
theorem Text.trimmed_of_forall_solid {text : Text} (solid : ∀ c ∈ text, isBlank c = false) :
    Trimmed text := by
  have kept : ∀ {rest : Text}, (∀ c ∈ rest, isBlank c = false) → rest.dropWhile isBlank = rest := by
    intro rest solid
    cases rest with
    | nil => rfl
    | cons c more => exact List.dropWhile_cons_of_neg (by simp [solid c List.mem_cons_self])
  have turned : ∀ c ∈ text.reverse, isBlank c = false := fun c member =>
    solid c (List.mem_reverse.mp member)
  rw [Trimmed, trim, trimStart, kept solid, trimEnd, kept turned, List.reverse_reverse]

/-- A decimal digit is no white space. -/
theorem Text.isBlank_of_isDigit {c : Char} (digit : c.isDigit = true) : isBlank c = false := by
  simp only [Char.isDigit, Bool.and_eq_true, decide_eq_true_eq, ge_iff_le, UInt32.le_iff_toNat_le]
    at digit
  have low : 48 ≤ c.toNat := digit.1
  have high : c.toNat ≤ 57 := digit.2
  simp only [isBlank, Bool.or_eq_false_iff, Bool.and_eq_false_iff, decide_eq_false_iff_not,
    beq_eq_false_iff_ne]
  omega

namespace Document

variable {document other : Document}

/-- The keys of a sound section are trimmed, also those made up for comment blocks. -/
theorem Sound.trimmed_key (sound : document.Sound) {home : Option Text} {entry : Entry}
    (member : entry ∈ document.entriesAt home) : Text.Trimmed entry.key := by
  obtain ⟨sect, inside, -, holds⟩ := sound.mem_entriesAt.mp member
  rcases (sound.sections sect inside).entries entry holds with setting | note
  · exact setting.key.trimmed
  · obtain ⟨marker, digits, block, stands⟩ := note.stands
    refine Text.trimmed_of_forall_solid fun c here => ?_
    rw [stands.key] at here
    rcases List.mem_cons.mp here with rfl | digit
    · exact Line.isBlank_of_isMarker stands.marked
    · exact Text.isBlank_of_isDigit (stands.decimal c digit)

/-! ### Lookups and order determine a document -/

/-- The keys of all entries of a section, in order. -/
def allKeysAt (document : Document) (home : Option Text) : List Text :=
  (document.entriesAt home).map Entry.key

/-- A sound document consists of its sections in order, each with its comment and entries. -/
theorem Sound.sections_eq (sound : document.Sound) :
    document.sections = document.sectionNames.map fun home =>
      ⟨home, document.commentAt? home, document.entriesAt home⟩ := by
  rw [sectionNames, List.map_map]
  have each : ∀ sect ∈ document.sections,
      sect = ⟨sect.name, document.commentAt? sect.name, document.entriesAt sect.name⟩ := by
    intro sect member
    have stored := sound.stored?_eq_some_iff.mpr ⟨member, rfl⟩
    rw [commentAt?, entriesAt, stored]
    rfl
  exact (List.map_id document.sections).symm.trans (List.map_congr_left each)

/-- The entries of a section are those that its keys lead to, in order. -/
theorem Sound.map_entryAt? (sound : document.Sound) (home : Option Text) :
    (document.allKeysAt home).map (document.entryAt? home) =
      (document.entriesAt home).map some := by
  rw [allKeysAt, List.map_map]
  refine List.map_congr_left fun entry member => ?_
  exact (Roster.get?_eq_some_iff (sound.distinct_entriesAt home)).mpr ⟨member, rfl⟩

/-- Sound documents with the same names and keys in the same order, in which lookups find the same,
are the same. -/
theorem Sound.eq_of_lookups (sound : document.Sound) (otherSound : other.Sound)
    (names : document.sectionNames = other.sectionNames)
    (keys : ∀ home, document.allKeysAt home = other.allKeysAt home)
    (entries : ∀ sect key, document.entry? sect key = other.entry? sect key)
    (comments : ∀ sect, document.sectionComment? sect = other.sectionComment? sect) :
    document = other := by
  have sections : document.sections = other.sections := by
    rw [sound.sections_eq, otherSound.sections_eq, ← names]
    refine List.map_congr_left fun home member => ?_
    have address : Document.address home = home := sound.address_eq member
    have comment : document.commentAt? home = other.commentAt? home := by
      have same := comments home
      rw [sectionComment?_eq, sectionComment?_eq, address] at same
      exact same
    have found : (document.entriesAt home).map some = (other.entriesAt home).map some := by
      rw [← sound.map_entryAt?, ← otherSound.map_entryAt?, ← keys]
      refine List.map_congr_left fun key inside => ?_
      obtain ⟨entry, holds, rfl⟩ := List.mem_map.mp inside
      have trimmed : Text.trim entry.key = entry.key := sound.trimmed_key holds
      have same := entries home entry.key
      rw [entry?_eq, entry?_eq, address, trimmed] at same
      exact same
    have injective : Function.Injective (some : Entry → Option Entry) :=
      fun _ _ same => Option.some.inj same
    rw [comment, List.map_injective_iff.mpr injective found]
  exact congrArg Document.mk sections

/-! ### Putting an entry and taking it away -/

/-- Whether a document is another one with an entry put at an address. -/
structure Puts (document changed : Document) (sect : Option Text) (key : Text) (entry : Entry) :
    Prop where
  /-- Every spelling of the address leads to the entry, and all others lead where they led. -/
  entries : ∀ other found, changed.entry? other found =
    if address other = address sect ∧ Text.trim found = Text.trim key then some entry
    else document.entry? other found
  /-- A missing section comes last. -/
  names : changed.sectionNames = Roster.enroll (address sect) document.sectionNames
  /-- A missing key comes last in its section. -/
  keys : ∀ home, changed.allKeysAt home =
    if home = address sect then Roster.enroll (Text.trim key) (document.allKeysAt home)
    else document.allKeysAt home
  /-- The comments of sections stay. -/
  comments : ∀ other, changed.sectionComment? other = document.sectionComment? other

/-- Whether a document is another one with the entry at an address taken away. -/
structure Drops (document changed : Document) (sect : Option Text) (key : Text) : Prop where
  /-- No spelling of the address leads anywhere, and all others lead where they led. -/
  entries : ∀ other found, changed.entry? other found =
    if address other = address sect ∧ Text.trim found = Text.trim key then none
    else document.entry? other found
  /-- The sections stay. -/
  names : changed.sectionNames = document.sectionNames
  /-- The other keys stay in order. -/
  keys : ∀ home, changed.allKeysAt home =
    if home = address sect then (document.allKeysAt home).filter fun found => found ≠ Text.trim key
    else document.allKeysAt home
  /-- The comments of sections stay. -/
  comments : ∀ other, changed.sectionComment? other = document.sectionComment? other

variable {changed : Document} {sect : Option Text} {key : Text}

/-- Only one sound document has an entry put at an address of another. -/
theorem Puts.unique {entry : Entry} (puts : document.Puts changed sect key entry)
    (again : document.Puts other sect key entry) (sound : changed.Sound)
    (otherSound : other.Sound) : changed = other := by
  apply sound.eq_of_lookups otherSound
  · rw [puts.names, again.names]
  · intro home
    rw [puts.keys, again.keys]
  · intro elsewhere found
    rw [puts.entries, again.entries]
  · intro elsewhere
    rw [puts.comments, again.comments]

/-- Only one sound document has the entry at an address of another taken away. -/
theorem Drops.unique (drops : document.Drops changed sect key)
    (again : document.Drops other sect key) (sound : changed.Sound)
    (otherSound : other.Sound) : changed = other := by
  apply sound.eq_of_lookups otherSound
  · rw [drops.names, again.names]
  · intro home
    rw [drops.keys, again.keys]
  · intro elsewhere found
    rw [drops.entries, again.entries]
  · intro elsewhere
    rw [drops.comments, again.comments]

/-- A change of one entry that keeps its key puts what it makes of the entry that is there, or of a
bare one. -/
theorem puts_amend (document : Document) (sect : Option Text) (key : Text) (edit : Entry → Entry)
    (keyed : ∀ found, found.key = Text.trim key → (edit found).key = Text.trim key) :
    document.Puts (document.amend (address sect) fun found => found.change (Text.trim key) edit)
      sect key (edit ((document.entry? sect key).getD (Entry.new (Text.trim key)))) where
  entries elsewhere found := by
    rw [entry?_eq, entry?_eq, entry?_eq, entryAt?, entriesAt_amend_change, entryAt?, entryAt?]
    by_cases home : address sect = address elsewhere
    · rw [if_pos home, ← home]
      by_cases here : Text.trim found = Text.trim key
      · rw [if_pos ⟨rfl, here⟩, here]
        exact Roster.get?_upsert_self _ _ _ _ _ (keyed _ rfl) fun entry _ => keyed entry
      · rw [if_neg fun both => here both.2]
        exact Roster.get?_upsert_other _ _ _ _ _ _ here (keyed _ rfl) fun entry _ => keyed entry
    · rw [if_neg home, if_neg fun both => home both.1.symm]
  names := sectionNames_amend fun _ named => named
  keys home := by
    rw [allKeysAt, entriesAt_amend_change]
    by_cases here : home = address sect
    · rw [if_pos here.symm, if_pos here]
      exact Roster.names_upsert _ _ _ _ _ (keyed _ rfl) fun entry _ => keyed entry
    · rw [if_neg (Ne.symm here), if_neg here]
      rfl
  comments elsewhere := commentAt?_amend_change _ _ _

/-- Removing a key from a sound document takes its entry away. -/
theorem Sound.drops_of_removeKey (sound : document.Sound) {removed : Entry}
    (done : document.removeKey sect key = some (removed, changed)) :
    document.Drops changed sect key := by
  have after : document.removingKey sect key = changed := by
    rw [Document.removingKey, done]
    rfl
  have entriesAt (home : Option Text) : changed.entriesAt home =
      if address sect = home then
        (document.entriesAt home).filter fun entry => entry.key ≠ Text.trim key
      else document.entriesAt home := after ▸ sound.entriesAt_removingKey sect key home
  constructor
  · intro elsewhere found
    rw [entry?_eq, entry?_eq, entryAt?, entryAt?, entriesAt]
    by_cases home : address sect = address elsewhere
    · rw [if_pos home, Roster.get?, Roster.get?, List.find?_filter]
      by_cases here : Text.trim found = Text.trim key
      · rw [if_pos ⟨home.symm, here⟩, here]
        exact List.find?_eq_none.mpr fun entry _ => by simp
      · rw [if_neg fun both => here both.2]
        refine congrArg (List.find? · (document.entriesAt _)) (funext fun entry => ?_)
        by_cases named : entry.key = Text.trim found
        · simp [named, here]
        · simp [named]
    · rw [if_neg home, if_neg fun both => home both.1.symm]
  · rw [← after, sectionNames_removingKey]
  · intro home
    rw [allKeysAt, allKeysAt, entriesAt]
    by_cases here : home = address sect
    · rw [if_pos here.symm, if_pos here, List.filter_map]
      rfl
    · rw [if_neg (Ne.symm here), if_neg here]
  · intro elsewhere
    obtain ⟨-, amended⟩ := removeKey_eq_some done
    have kept := @commentAt?_amend document (address sect)
      (fun found => found.erase (Text.trim key)) id (fun _ named => named) (fun _ => rfl)
      (address elsewhere)
    rw [sectionComment?_eq, sectionComment?_eq, amended, kept]
    exact ite_self _

/-! ### What each write gives and makes -/

/-- A key of a sound document has a value exactly if it is present and not made up for a comment
block. -/
theorem Sound.isSome_value?_eq (sound : document.Sound) (sect : Option Text) (key : Text) :
    (document.value? sect key).isSome =
      (document.hasKey sect key && !Entry.isReserved (Text.trim key)) := by
  unfold value? hasKey
  cases found : document.entry? sect key with
  | none => rfl
  | some entry =>
    rw [entry?_eq] at found
    obtain ⟨member, named⟩ := Roster.of_get?_eq_some Entry.key _ _ found
    obtain ⟨holder, inside, -, holds⟩ := sound.mem_entriesAt.mp member
    rw [← named, ← Entry.isStandalone_eq]
    rcases (sound.sections holder inside).entries entry holds with setting | note
    · obtain ⟨value, valued, -⟩ := setting.value
      simp [valued, setting.not_isStandalone]
    · obtain ⟨marker, digits, block, stands⟩ := note.stands
      simp [stands.value, note.isStandalone]

/-- What is stored under a key that a setter accepts has a value. -/
theorem Sound.isSome_value? (sound : document.Sound) (sect : Option Text)
    (stored : StoredKey (Text.trim key)) :
    (document.value? sect key).isSome = document.hasKey sect key := by
  rw [sound.isSome_value?_eq, Entry.isReserved_of_storedKey stored, Bool.not_false, Bool.and_true]

/-- An entry that is there is stored under the trimmed key. -/
theorem key_getD_lookup (document : Document) (sect : Option Text) (key : Text) :
    ((document.entry? sect key).getD (Entry.new (Text.trim key))).key = Text.trim key := by
  cases found : document.entry? sect key with
  | none => rfl
  | some entry =>
    rw [entry?_eq] at found
    exact (Roster.of_get?_eq_some Entry.key _ _ found).2

/-- The comment of an entry that is there, or of a bare one. -/
theorem comment_getD_lookup (document : Document) (sect : Option Text) (key : Text) :
    ((document.entry? sect key).getD (Entry.new (Text.trim key))).comment =
      document.comment? sect key := by
  rw [comment?]
  cases document.entry? sect key <;> rfl

/-- The text of the value of an entry that is there, or of a bare one. -/
theorem valueText_getD_lookup (document : Document) (sect : Option Text) (key : Text) :
    ((document.entry? sect key).getD (Entry.new (Text.trim key))).valueText =
      (document.value? sect key).getD [] := by
  rw [value?, Entry.valueText]
  cases document.entry? sect key <;> rfl

/-- A value is looked up under its key in any spelling. -/
theorem value?_trim (document : Document) (sect : Option Text) (key : Text) :
    document.value? sect (Text.trim key) = document.value? sect key := by
  have trimmed : Text.trim (Text.trim key) = Text.trim key := Text.trimmed_trim key
  rw [value?_eq, value?_eq, trimmed]

/-- A comment is looked up under its key in any spelling. -/
theorem comment?_trim (document : Document) (sect : Option Text) (key : Text) :
    document.comment? sect (Text.trim key) = document.comment? sect key := by
  have trimmed : Text.trim (Text.trim key) = Text.trim key := Text.trimmed_trim key
  rw [comment?, comment?, entry?_eq, entry?_eq, trimmed]

/-- Setting a value puts the entry with the trimmed value and the comment that is there. -/
theorem Sound.puts_of_setString (sound : document.Sound) {value : Text} {before : Option Text}
    (done : document.setString sect key value = .ok (changed, before)) :
    before = document.value? sect key ∧ before.isSome = document.hasKey sect key ∧
      document.Puts changed sect key
        ⟨Text.trim key, some (Text.trim value), document.comment? sect key⟩ := by
  obtain ⟨stored, text, passed, -, rfl, rfl⟩ := (setString_eq_ok_iff sound).mp done
  obtain ⟨rfl, rfl, storedKey, -⟩ := Guard.entry_eq_ok_iff.mp passed
  rw [value?_trim, sound.isSome_value? sect storedKey]
  have puts := document.puts_amend sect key
    (fun entry => { entry with value := some (Text.trim value) }) fun _ named => named
  simp only [key_getD_lookup, comment_getD_lookup] at puts
  exact ⟨rfl, rfl, puts⟩

/-- Setting a value with a comment puts the entry with the trimmed value and that comment. -/
theorem Sound.puts_of_setStringWithComment (sound : document.Sound) {value : Text}
    {comment before : Option Text}
    (done : document.setStringWithComment sect key value comment = .ok (changed, before)) :
    before = document.value? sect key ∧ before.isSome = document.hasKey sect key ∧
      document.Puts changed sect key ⟨Text.trim key, some (Text.trim value), comment⟩ := by
  obtain ⟨-, stored, text, passed, -, rfl, rfl⟩ := (setStringWithComment_eq_ok_iff sound).mp done
  obtain ⟨rfl, rfl, storedKey, -⟩ := Guard.entry_eq_ok_iff.mp passed
  rw [value?_trim, sound.isSome_value? sect storedKey]
  have puts := document.puts_amend sect key
    (fun entry => { entry with value := some (Text.trim value), comment := comment })
    fun _ named => named
  simp only [key_getD_lookup] at puts
  exact ⟨rfl, rfl, puts⟩

/-- Setting a comment puts the entry with the value that is there, or the empty one, and that
comment. -/
theorem Sound.puts_of_setComment (sound : document.Sound) {comment before : Option Text}
    (done : document.setComment sect key comment = .ok (changed, before)) :
    before = document.comment? sect key ∧
      document.Puts changed sect key
        ⟨Text.trim key, some ((document.value? sect key).getD []), comment⟩ := by
  obtain ⟨-, stored, -, rfl, -, rfl, rfl⟩ := (setComment_eq_ok_iff sound).mp done
  have puts := document.puts_amend sect key
    (fun entry => { entry with value := some entry.valueText, comment := comment })
    fun _ named => named
  simp only [key_getD_lookup, valueText_getD_lookup] at puts
  exact ⟨comment?_trim document sect key, puts⟩

/-- What removing a key gives is the entry at the address, if there is one. -/
theorem fst_removeKey (document : Document) (sect : Option Text) (key : Text) :
    (document.removeKey sect key).map Prod.fst = document.entry? sect key := by
  unfold removeKey
  cases document.entry? sect key <;> rfl

/-- What removing a section gives is the section of the name, if there is one. -/
theorem fst_removeSection (document : Document) (sect : Option Text) :
    (document.removeSection sect).map Prod.fst =
      sect.bind fun name => document.section? (some name) := by
  cases sect with
  | none => rfl
  | some name =>
    unfold removeSection
    simp only [Option.bind_eq_bind, Option.bind_some]
    cases document.section? (some name) <;> rfl

/-- Removing a section from a sound document leaves the other sections in order, the global one
first. -/
theorem Sound.sections_of_removeSection (sound : document.Sound) {removed : Section}
    (done : document.removeSection sect = some (removed, changed)) :
    changed.sections = document.sections.filter (fun found => found.name ≠ address sect) ∧
      changed.sectionNames.head? = some none := by
  refine ⟨?_, ((Removal.removeSection done).sound sound).first⟩
  rw [(removeSection_eq_some done).2]
  exact Roster.erase_eq_filter sound.distinct (address sect)

/-- Every write to a document with a history changes the one place that it addresses. A setter that
succeeds puts one entry and gives what was there before: setting a value keeps the comment, setting
both replaces both, and setting a comment keeps the value, which is empty for a new key. Removing a
key takes its entry away, and removing a section takes away that section, which is never the global
one; both give what they remove, and nothing where nothing is there. An entry put or taken away
leaves only one document that has a history. -/
theorem writes_change_one_place {document : Document} (reachable : document.Reachable)
    (sect : Option Text) (key : Text) :
    (∀ value changed before, document.setString sect key value = .ok (changed, before) →
        before = document.value? sect key ∧ before.isSome = document.hasKey sect key ∧
          document.Puts changed sect key
            ⟨Text.trim key, some (Text.trim value), document.comment? sect key⟩) ∧
      (∀ value comment changed before,
        document.setStringWithComment sect key value comment = .ok (changed, before) →
          before = document.value? sect key ∧ before.isSome = document.hasKey sect key ∧
            document.Puts changed sect key ⟨Text.trim key, some (Text.trim value), comment⟩) ∧
      (∀ comment changed before, document.setComment sect key comment = .ok (changed, before) →
        before = document.comment? sect key ∧
          document.Puts changed sect key
            ⟨Text.trim key, some ((document.value? sect key).getD []), comment⟩) ∧
      ((document.removeKey sect key).map Prod.fst = document.entry? sect key ∧
        ∀ removed changed, document.removeKey sect key = some (removed, changed) →
          document.Drops changed sect key) ∧
      ((document.removeSection sect).map Prod.fst =
          (sect.bind fun name => document.section? (some name)) ∧
        ∀ removed changed, document.removeSection sect = some (removed, changed) →
          changed.sections = document.sections.filter (fun found => found.name ≠ address sect) ∧
            changed.sectionNames.head? = some none) ∧
      ∀ changed other : Document, changed.Reachable → other.Reachable →
        (∀ entry, document.Puts changed sect key entry → document.Puts other sect key entry →
          changed = other) ∧
        (document.Drops changed sect key → document.Drops other sect key → changed = other) := by
  have sound := reachable.sound
  refine ⟨?_, ?_, ?_, ⟨document.fst_removeKey sect key, ?_⟩,
    ⟨document.fst_removeSection sect, ?_⟩, ?_⟩
  · intro value changed before done
    exact sound.puts_of_setString done
  · intro value comment changed before done
    exact sound.puts_of_setStringWithComment done
  · intro comment changed before done
    exact sound.puts_of_setComment done
  · intro removed changed done
    exact sound.drops_of_removeKey done
  · intro removed changed done
    exact sound.sections_of_removeSection done
  · intro changed other changedReachable otherReachable
    exact ⟨fun entry puts again =>
      puts.unique again changedReachable.sound otherReachable.sound,
      fun drops again => drops.unique again changedReachable.sound otherReachable.sound⟩

/-- A key between a comment block of its own and another key is set, commented and removed in
spellings with white space, and its section is removed. -/
theorem writes_change_one_place_between :
    let old := (parse empty [] "k = 1\n[s]\n# n\n\n# c\na = 1\nb = 2\n".toList).document
    (∃ changed,
        old.setString (some " s".toList) "a ".toList " 5 ".toList = .ok (changed, some "1".toList) ∧
          changed.entry? (some "s".toList) "a".toList =
            some ⟨"a".toList, some "5".toList, some "# c".toList⟩ ∧
          changed.allKeysAt (some "s".toList) = ["#4".toList, "a".toList, "b".toList]) ∧
      (∃ changed,
        old.setStringWithComment (some " s".toList) "a ".toList [] none =
            .ok (changed, some "1".toList) ∧
          changed.entry? (some "s".toList) "a".toList = some ⟨"a".toList, some [], none⟩) ∧
      (∃ changed,
        old.setComment (some " s".toList) "a ".toList (some "; d".toList) =
            .ok (changed, some "# c".toList) ∧
          changed.entry? (some "s".toList) "a".toList =
            some ⟨"a".toList, some "1".toList, some "; d".toList⟩) ∧
      (∃ removed changed, old.removeKey (some " s".toList) "a ".toList = some (removed, changed) ∧
        changed.allKeysAt (some "s".toList) = ["#4".toList, "b".toList]) ∧
      ∃ removed changed, old.removeSection (some " s".toList) = some (removed, changed) ∧
        changed.sectionNames.head? = some none := by
  intro old
  have reachable : old.Reachable := .step .empty (.parse [] _ rfl)
  obtain ⟨set, setBoth, comment, ⟨-, remove⟩, ⟨-, removeSection⟩, -⟩ :=
    writes_change_one_place reachable (some " s".toList) "a ".toList
  refine ⟨⟨_, rfl, ?_, ?_⟩, ⟨_, rfl, ?_⟩, ⟨_, rfl, ?_⟩, ⟨_, _, rfl, ?_⟩, ⟨_, _, rfl, ?_⟩⟩
  · exact (set " 5 ".toList _ _ rfl).2.2.entries (some "s".toList) "a".toList
  · exact (set " 5 ".toList _ _ rfl).2.2.keys (some "s".toList)
  · exact (setBoth [] none _ _ rfl).2.2.entries (some "s".toList) "a".toList
  · exact (comment (some "; d".toList) _ _ rfl).2.entries (some "s".toList) "a".toList
  · exact (remove _ _ rfl).keys (some "s".toList)
  · exact (removeSection _ _ rfl).2

end Document

end IniKeeper
