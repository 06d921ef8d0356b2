import IniKeeper.Proofs.Merging
import Mathlib.Data.List.Perm.Subperm

/-!
# What a merge keeps

A comment block that belongs to no key is stored under its marker and the number of the line that
settled it. Blocks of one text are settled at different lines, but two texts may well settle blocks
at the same line, and then the later block takes the place of the earlier one. This module tells
which blocks a document holds after a merge: all that the text settles, and of those that were there
just the ones whose made-up keys the text does not use again.
-/

namespace IniKeeper

/-! ### Entries that are put into others -/

namespace Entry

/-- Put entries into others one by one, each in the place of the one under its key. -/
def putAll (entries added : List Entry) : List Entry :=
  added.foldl (fun before entry =>
    Roster.upsert key entry.key (new entry.key) (fun _ => entry) before) entries

/-- Putting more entries is putting them after the others. -/
theorem putAll_append (entries added more : List Entry) :
    putAll entries (added ++ more) = putAll (putAll entries added) more :=
  List.foldl_append

/-- Putting entries keeps the keys distinct. -/
theorem distinct_putAll {entries : List Entry} (added : List Entry)
    (distinct : (entries.map key).Nodup) : ((putAll entries added).map key).Nodup := by
  induction added generalizing entries with
  | nil => exact distinct
  | cons entry rest ih =>
    refine ih ?_
    rw [Roster.names_upsert]
    · exact Roster.nodup_enroll distinct
    · rfl
    · exact fun _ _ _ => rfl

/-- Afterwards there are the entries put, and those before whose keys none of them has. -/
theorem mem_putAll_iff {entries added : List Entry} {entry : Entry}
    (distinct : (entries.map key).Nodup) (apart : (added.map key).Nodup) :
    entry ∈ putAll entries added ↔
      entry ∈ added ∨ entry ∈ entries ∧ entry.key ∉ added.map key := by
  induction added generalizing entries with
  | nil => simp [putAll]
  | cons first rest ih =>
    rw [List.map_cons, List.nodup_cons] at apart
    obtain ⟨alone, apart⟩ := apart
    have distinctNext : ((Roster.upsert key first.key (new first.key) (fun _ => first) entries).map
        key).Nodup := distinct_putAll [first] distinct
    have step := ih distinctNext apart
    rw [Roster.mem_upsert_put_iff key (new first.key) first distinct] at step
    rw [List.map_cons, List.mem_cons, List.mem_cons, not_or]
    refine step.trans ?_
    constructor
    · rintro (later | ⟨rfl | ⟨old, different⟩, unused⟩)
      · exact .inl (.inr later)
      · exact .inl (.inl rfl)
      · exact .inr ⟨old, different, unused⟩
    · rintro ((rfl | later) | ⟨old, different, unused⟩)
      · exact .inr ⟨.inl rfl, alone⟩
      · exact .inl later
      · exact .inr ⟨.inr ⟨old, different⟩, unused⟩

/-- Up to their order, the entries afterwards are those before whose keys none of the entries put
has, and the entries put. -/
theorem perm_putAll {entries added : List Entry} (distinct : (entries.map key).Nodup)
    (apart : (added.map key).Nodup) :
    (putAll entries added).Perm
      (entries.filter (fun entry => entry.key ∉ added.map key) ++ added) := by
  have others : (entries.filter fun entry => entry.key ∉ added.map key).Sublist entries :=
    List.filter_sublist
  have whole : (entries.filter (fun entry => entry.key ∉ added.map key) ++ added).Nodup := by
    rw [List.nodup_append]
    refine ⟨distinct.of_map.sublist others, apart.of_map, ?_⟩
    rintro entry before other after rfl
    have unused := (List.mem_filter.mp before).2
    exact (of_decide_eq_true unused) (List.mem_map_of_mem after)
  rw [List.perm_ext_iff_of_nodup (distinct_putAll added distinct).of_map whole]
  intro entry
  rw [mem_putAll_iff distinct apart, List.mem_append, List.mem_filter, decide_eq_true_iff]
  exact or_comm

/-- All entries that are put are there. -/
theorem subperm_putAll {entries added : List Entry} (distinct : (entries.map key).Nodup)
    (apart : (added.map key).Nodup) : added.Subperm (putAll entries added) :=
  List.subperm_of_subset apart.of_map fun _ put => (mem_putAll_iff distinct apart).mpr (.inl put)

/-- All entries from before are still there exactly if another is put under the key of none. -/
theorem subperm_putAll_iff {entries added : List Entry} (distinct : (entries.map key).Nodup)
    (apart : (added.map key).Nodup) :
    entries.Subperm (putAll entries added) ↔
      ∀ entry ∈ entries, ∀ other ∈ added, other.key = entry.key → other = entry := by
  constructor
  · intro kept entry old other put same
    rcases (mem_putAll_iff distinct apart).mp (kept.subset old) with again | ⟨-, unused⟩
    · exact List.inj_on_of_nodup_map apart put again same
    · exact absurd (same ▸ List.mem_map_of_mem put) unused
  · intro harmless
    refine List.subperm_of_subset distinct.of_map fun entry old => ?_
    rw [mem_putAll_iff distinct apart]
    -- An entry whose key is used is itself the one that is put.
    by_cases used : entry.key ∈ added.map key
    · obtain ⟨other, put, same⟩ := List.mem_map.mp used
      exact .inl (harmless entry old other put same ▸ put)
    · exact .inr ⟨old, used⟩

end Entry

/-! ### Documents in which nothing was said at the top -/

namespace Document

variable {document : Document}

/-- A change of a named section leaves the top as it is. -/
theorem atTop_amend_named (name : Text) {edit : Section → Section}
    (kept : ∀ sect, sect.name = some name → (edit sect).name = some name) :
    (document.amend (some name) edit).atTop none = document.atTop none := by
  have same : (document.amend (some name) edit).stored? none = document.stored? none :=
    stored?_amend_other kept (Option.some_ne_none name)
  simp only [atTop, sectionComment?_eq, commentAt?, section?_eq, address, Option.map_none, same]

/-- A global section with an entry is not untouched. -/
theorem atTop_amend_change (key : Text) (change : Entry → Entry) :
    (document.amend none fun sect => sect.change key change).atTop none = false := by
  have stored := @stored?_amend_self document none (fun sect => sect.change key change)
    fun _ named => named
  have entry : ∀ entries, (Roster.upsert Entry.key key (Entry.new key) change entries).isEmpty =
      false := by
    intro entries
    cases entries with
    | nil => rfl
    | cons first rest =>
      rw [Roster.upsert]
      split <;> rfl
  rw [atTop, section?_eq, address, Option.map_none, stored, Option.any_some, Section.change, entry,
    Bool.and_false]

/-- A global section with a comment is not untouched. -/
theorem atTop_amend_comment (block : Text) :
    (document.amend none fun sect => { sect with comment := some block }).atTop none = false := by
  have stored := @stored?_amend_self document none (fun sect => { sect with comment := some block })
    fun _ named => named
  simp [atTop, sectionComment?_eq, commentAt?, section?_eq, address, stored]

/-- Nothing was said at the top before and by a statement: it is about another section. -/
theorem atTop_accept (document : Document) (said : Statement) :
    (document.accept said).atTop none = (document.atTop none && said.sect.isSome) := by
  cases said with
  | header name comment =>
    rw [accept, atTop_amend_named name]
    · exact (Bool.and_true _).symm
    · exact fun _ named => named
  | setting sect key value comment =>
    rw [accept]
    cases sect with
    | none =>
      rw [atTop_amend_change]
      exact (Bool.and_false _).symm
    | some name =>
      rw [atTop_amend_named name]
      · exact (Bool.and_true _).symm
      · exact fun _ named => named
  | note sect block line =>
    rw [accept]
    cases sect with
    | none =>
      have none : (Statement.note none block line).sect.isSome = false := rfl
      rw [none, Bool.and_false]
      split
      · exact atTop_amend_comment block
      · exact atTop_amend_change _ _
    | some name =>
      have elsewhere : document.atTop (some name) = false := rfl
      rw [elsewhere, if_neg Bool.false_ne_true, atTop_amend_named name]
      · exact (Bool.and_true _).symm
      · exact fun _ named => named

/-- Nothing was said at the top before and by statements in a row: each is about another section. -/
theorem atTop_acceptAll (document : Document) (said : List Statement) :
    (document.acceptAll said).atTop none =
      (document.atTop none && said.all fun one => one.sect.isSome) := by
  induction said generalizing document with
  | nil => exact (Bool.and_true _).symm
  | cons first rest ih =>
    have step := ih (document.accept first)
    rw [atTop_accept, Bool.and_assoc] at step
    exact step

end Document

/-! ### Comment blocks that a text settles -/

namespace Rows

variable {rows : List Text} {raw : Text} {home : Option Text} {block : Text} {line : Nat}

/-- Below no header, everything was stated in the global section. -/
theorem sect_of_mem_statements (unopened : openSection rows = none) {said : Statement}
    (member : said ∈ statements rows) : said.sect = none := by
  have nothing : (statements rows).filterMap Statement.header? = [] := by
    rw [headers_statements]
    exact List.getLast?_eq_none_iff.mp unopened
  have placed := placed_statements rows said member
  rw [Meaning.names, Occurrences.firsts, nothing] at placed
  exact List.mem_singleton.mp placed

/-- A comment block that a line settles is at the top exactly when nothing was stated above it and
it is so in the document. -/
theorem atTop_note (document : Document)
    (states : statement? rows raw = some (.note home block line)) :
    (document.acceptAll (statements rows)).atTop home =
      (document.atTop none && (statements rows).isEmpty) := by
  have isOpen : home = openSection rows := sect_of_statement? states rfl
  cases home with
  | none =>
    have nowhere : ∀ one ∈ statements rows, one.sect = none :=
      fun one => sect_of_mem_statements isOpen.symm
    rw [Document.atTop_acceptAll]
    cases above : statements rows with
    | nil => rfl
    | cons first rest =>
      have here : first.sect = none := nowhere first (above ▸ List.mem_cons_self)
      simp [here]
  | some name =>
    have some : statements rows ≠ [] := by
      intro nothing
      have opened := last_header?_statements rows
      rw [nothing, ← isOpen] at opened
      contradiction
    have elsewhere : (document.acceptAll (statements rows)).atTop (Option.some name) = false := rfl
    rw [elsewhere, List.isEmpty_eq_false_iff.mpr some, Bool.and_false]

/-- What a line states is a comment block at the top, above which nothing was stated, or it comes
late in an untouched document and is no comment block at the top. -/
theorem first_or_late (document : Document) {more : Statement}
    (states : statement? rows raw = some more) :
    (statements rows = [] ∧ document.atTop none = true ∧
        ∃ sect block line, more = .note sect block line ∧ document.atTop sect = true) ∨
      (document.atTop none = true → Meaning.Late (statements rows) more) ∧
        ∀ sect block line, more = .note sect block line →
          (document.acceptAll (statements rows)).atTop sect = false := by
  by_cases first : statements rows = [] ∧ document.atTop none = true ∧
      ∃ sect block line, more = .note sect block line
  · obtain ⟨nothing, untouched, sect, block, line, rfl⟩ := first
    have top := atTop_note document states
    rw [nothing, untouched] at top
    exact .inl ⟨nothing, untouched, sect, block, line, rfl, top⟩
  · refine .inr ⟨fun untouched nothing sect block line same =>
      first ⟨nothing, untouched, sect, block, line, same⟩, ?_⟩
    rintro sect block line rfl
    rw [atTop_note document states, Bool.and_eq_false_iff]
    by_contra top
    rw [not_or, Bool.not_eq_false, Bool.not_eq_false, List.isEmpty_iff] at top
    exact first ⟨top.2, top.1, sect, block, line, rfl⟩

end Rows

/-- What statements put into sections of a document: all but the comment block that they begin with,
where that goes to the top. -/
def Document.settled (document : Document) (said : List Statement) : List Statement :=
  if document.atTop none then Meaning.body said else said

/-- The entries of their own that a text puts into a section of a document, in order. -/
def Document.added (document : Document) (said : List Statement) (home : Option Text) :
    List Entry :=
  (document.settled said).filterMap (Statement.note? home)

namespace Document

variable {document : Document} {said : List Statement} {more : Statement}

/-- A statement that is no comment block at the top is put into its section. -/
theorem settled_concat (late : document.atTop none = true → Meaning.Late said more) :
    document.settled (said ++ [more]) = document.settled said ++ [more] := by
  unfold settled
  split
  · rename_i top
    exact (late top).body_concat
  · rfl

/-- No statements leave a document as it is. -/
theorem acceptAll_nil (document : Document) : document.acceptAll [] = document := rfl

/-- A single statement is accepted. -/
theorem acceptAll_singleton (document : Document) (more : Statement) :
    document.acceptAll [more] = document.accept more := rfl

/-- A comment block of a late statement comes last among those added. -/
theorem added_concat (late : document.atTop none = true → Meaning.Late said more)
    (home : Option Text) :
    document.added (said ++ [more]) home =
      document.added said home ++ (more.note? home).toList := by
  rw [added, settled_concat late, List.filterMap_append, added]
  cases adds : more.note? home <;> simp [adds]

/-- A comment block at the top becomes none of those in a section. -/
theorem notesAt_accept_top {sect : Option Text} (top : document.atTop sect = true) (block : Text)
    (line : Nat) (home : Option Text) :
    (document.accept (.note sect block line)).notesAt home = document.notesAt home := by
  rw [accept, if_pos top, notesAt, entriesAt_amend_comment fun _ => some block]
  rfl

/-- The comment blocks in a section after a statement: any but one at the top is put there. -/
theorem notesAt_accept (apart : more.Apart)
    (below : ∀ sect block line, more = .note sect block line → document.atTop sect = false)
    (home : Option Text) :
    (document.accept more).notesAt home =
      Entry.putAll (document.notesAt home) (more.note? home).toList := by
  cases more with
  | header name comment =>
    rw [notesAt, entriesAt_accept_header]
    rfl
  | setting sect key value comment =>
    rw [accept, notesAt, entriesAt_amend_change]
    by_cases same : sect = home
    · rw [if_pos same]
      exact Roster.filter_upsert_of_unwanted _ _ _ _ _ apart rfl fun _ _ named => named
    · rw [if_neg same]
      rfl
  | note sect block line =>
    rw [accept, below sect block line rfl, if_neg Bool.false_ne_true, notesAt]
    unfold Section.put
    rw [entriesAt_amend_change, Statement.note?]
    by_cases same : sect = home
    · rw [if_pos same, if_pos same]
      exact Roster.filter_upsert_of_wanted _ _ _ _ _ apart rfl fun _ _ _ => rfl
    · rw [if_neg same, if_neg same]
      rfl

/-- The comment blocks in a section after what some lines state: those that the lines settle were
put into it one by one. -/
theorem notesAt_acceptAll (document : Document) {rows : List Text}
    (apart : ∀ one ∈ Rows.statements rows, one.Apart) (home : Option Text) :
    (document.acceptAll (Rows.statements rows)).notesAt home =
      Entry.putAll (document.notesAt home) (document.added (Rows.statements rows) home) := by
  -- From the end of the lines, since what a line settles depends on those above it.
  induction rows using List.reverseRecOn with
  | nil =>
    have nothing : document.added [] home = [] := by
      unfold added settled
      split <;> rfl
    exact congrArg (Entry.putAll (document.notesAt home)) nothing.symm
  | append_singleton rows raw ih =>
    have before := ih fun one member => apart one (Rows.mem_statements_concat.mpr (.inl member))
    rw [Rows.statements_concat, acceptAll_append]
    cases states : Rows.statement? rows raw with
    | none =>
      rw [Option.toList_none, List.append_nil]
      exact before
    | some more =>
      have keeps : more.Apart := apart more (Rows.mem_statements_concat.mpr (.inr states))
      rw [Option.toList_some, acceptAll_singleton]
      rcases Rows.first_or_late document states with
        ⟨nothing, untouched, sect, block, line, rfl, top⟩ | ⟨late, below⟩
      · rw [nothing, acceptAll_nil, notesAt_accept_top top]
        simp [added, settled, untouched, Meaning.body, Entry.putAll]
      · rw [notesAt_accept keeps below, before, added_concat late, Entry.putAll_append]

/-- A statement that is no comment block at the top keeps the comment of the global section. -/
theorem commentAt?_none_accept
    (below : ∀ sect block line, more = .note sect block line → document.atTop sect = false) :
    (document.accept more).commentAt? none = document.commentAt? none := by
  cases more with
  | header name comment =>
    rw [accept, commentAt?_amend_comment, if_neg (Option.some_ne_none name)]
  | setting sect key value comment => exact commentAt?_amend_change _ _ _
  | note sect block line =>
    rw [accept, below sect block line rfl, if_neg Bool.false_ne_true]
    exact commentAt?_amend_change _ _ _

/-- A comment block at the top becomes the comment of the global section, which had none. -/
theorem commentAt?_none_accept_top {sect : Option Text} (top : document.atTop sect = true)
    (block : Text) (line : Nat) :
    document.commentAt? none = none ∧
      (document.accept (.note sect block line)).commentAt? none = some block := by
  constructor
  · simp only [atTop, Bool.and_eq_true, Option.isNone_iff_eq_none] at top
    exact top.1.2
  · rw [accept, if_pos top, commentAt?_amend_comment fun _ => some block, if_pos rfl]

/-- The comment of the global section after what some lines state: the one before, or else the
comment block that the lines begin with, where that is at the top. -/
theorem commentAt?_none_acceptAll (document : Document) (rows : List Text) :
    (document.acceptAll (Rows.statements rows)).commentAt? none =
      (document.commentAt? none).or
        (if document.atTop none then Meaning.top? (Rows.statements rows) else none) := by
  induction rows using List.reverseRecOn with
  | nil =>
    have nothing : (if document.atTop none then Meaning.top? [] else none) = none := ite_self none
    exact (congrArg _ nothing).trans (Option.or_none) |>.symm
  | append_singleton rows raw ih =>
    rw [Rows.statements_concat, acceptAll_append]
    cases states : Rows.statement? rows raw with
    | none =>
      rw [Option.toList_none, List.append_nil]
      exact ih
    | some more =>
      rw [Option.toList_some, acceptAll_singleton]
      rcases Rows.first_or_late document states with
        ⟨nothing, untouched, sect, block, line, rfl, top⟩ | ⟨late, below⟩
      · obtain ⟨bare, given⟩ := commentAt?_none_accept_top top block line
        rw [nothing, acceptAll_nil, given, bare, if_pos untouched]
        rfl
      · rw [commentAt?_none_accept below, ih]
        by_cases untouched : document.atTop none = true
        · rw [if_pos untouched, if_pos untouched, (late untouched).top?_concat]
        · rw [if_neg untouched, if_neg untouched]

/-! ### Which comment blocks are kept -/

/-- What is put into sections was stated. -/
theorem settled_sublist (document : Document) (said : List Statement) :
    (document.settled said).Sublist said := by
  unfold settled
  split
  · exact Meaning.body_sublist said
  · exact List.Sublist.refl said

/-- Comment blocks that one text settles have different keys. -/
theorem distinct_added (document : Document) (rows : List Text) (home : Option Text) :
    ((document.added (Rows.statements rows) home).map Entry.key).Nodup := by
  have ordered := (Rows.lines_statements rows).1.sublist
    ((document.settled_sublist (Rows.statements rows)).filterMap Statement.line?)
  have line : ∀ (said : Statement) (entry : Entry), said.note? home = some entry →
      ∃ block line, said.line? = some line ∧ entry = Entry.standalone block line := by
    intro said entry gives
    cases said with
    | header name comment => contradiction
    | setting sect key value comment => contradiction
    | note sect block line =>
      obtain ⟨-, same⟩ := Option.ite_none_right_eq_some.mp gives
      exact ⟨block, line, rfl, (Option.some.inj same).symm⟩
  rw [List.Nodup, List.pairwise_map]
  refine List.pairwise_filterMap.mpr ((List.pairwise_filterMap.mp ordered).imp ?_)
  intro one other below entry gives another also same
  obtain ⟨block, first, settled, rfl⟩ := line one entry gives
  obtain ⟨found, second, again, rfl⟩ := line other another also
  have equal : first = second := Slot.name_note_inj same
  have order : first < second := below first settled second again
  omega

/-- After a merge that succeeds, the comment blocks of their own in a section are, up to their
order, those that the text settles there, and those from before whose keys the text does not use. So
all that the text settles are there as often as it settles them, and nothing from before is lost
exactly if the text uses the key of none of them for another block. A block at the top of both
becomes the comment of the global section, which otherwise stays. -/
theorem merge_keeps_notes {document : Document} (reachable : document.Reachable)
    (before : Option Text) {origin content : Text} {report : Report}
    (accepted : (Session.merge ⟨document, before⟩ origin content).result = .ok report) :
    let merged := (Session.merge ⟨document, before⟩ origin content).session.document
    let said := Rows.wholeStatements (Text.lines content)
    merged.commentAt? none = (document.commentAt? none).or
        (if document.atTop none then Meaning.top? said else none) ∧
      ∀ home,
        (merged.notesAt home).Perm
            ((document.notesAt home).filter
              (fun note => note.key ∉ (document.added said home).map Entry.key) ++
                document.added said home) ∧
          (document.added said home).Subperm (merged.notesAt home) ∧
          ((document.notesAt home).Subperm (merged.notesAt home) ↔
            ∀ note ∈ document.notesAt home, ∀ other ∈ document.added said home,
              other.key = note.key → other = note) := by
  intro merged said
  have sound := reachable.sound
  have wellFormed := Session.wellFormed_of_merge sound accepted
  have merged_eq : merged = document.acceptAll said := by
    have merging := @Session.merge_of_wellFormed content wellFormed ⟨document, before⟩ sound origin
    exact merging.2.trans (parse_of_wellFormed sound origin wellFormed).2.1
  have apart : ∀ one ∈ said, one.Apart := fun one =>
    Rows.apart_of_mem_statements (Rows.clean_whole content) (Rows.wellFormed_whole wellFormed)
  refine ⟨merged_eq ▸ commentAt?_none_acceptAll document (Text.lines content ++ [[]]),
    fun home => ?_⟩
  have notes : merged.notesAt home =
      Entry.putAll (document.notesAt home) (document.added said home) :=
    merged_eq ▸ notesAt_acceptAll document apart home
  have fewer : (document.notesAt home).Sublist (document.entriesAt home) := List.filter_sublist
  have distinct : ((document.notesAt home).map Entry.key).Nodup :=
    (sound.distinct_entriesAt home).sublist (fewer.map Entry.key)
  have different : ((document.added said home).map Entry.key).Nodup :=
    document.distinct_added (Text.lines content ++ [[]]) home
  rw [notes]
  exact ⟨Entry.perm_putAll distinct different, Entry.subperm_putAll distinct different,
    Entry.subperm_putAll_iff distinct different⟩

/-- A text that settles its block at another line keeps the one that is there. -/
theorem merge_keeps_notes_apart :
    let old := (parse empty [] "[s]\n# a\n\n".toList).document
    let merged := (Session.merge ⟨old, none⟩ [] "[s]\n\n# b\n".toList).session.document
    (Session.merge ⟨old, none⟩ [] "[s]\n\n# b\n".toList).result = .ok ⟨3, 1, 0, []⟩ ∧
      old.notesAt (some "s".toList) = [Entry.standalone "# a".toList 3] ∧
      (old.notesAt (some "s".toList)).Subperm (merged.notesAt (some "s".toList)) := by
  intro old merged
  have reachable : old.Reachable := .step .empty (.parse [] _ rfl)
  have accepted : (Session.merge ⟨old, none⟩ [] "[s]\n\n# b\n".toList).result =
      .ok ⟨3, 1, 0, []⟩ := rfl
  have notes := (@merge_keeps_notes old reachable none [] _ _ accepted).2 (some "s".toList)
  refine ⟨accepted, rfl, notes.2.2.mpr ?_⟩
  decide

/-- A text that settles its block at the same line as an earlier text puts it in the place of the
block that is there, which is lost. -/
theorem merge_loses_note :
    let old := (Session.new.load [] "[s]\n# a\n\n".toList).session
    let merge := old.merge [] "[s]\n# b\n\nk=1\n".toList
    old.document.Reachable ∧ merge.result = .ok ⟨4, 1, 1, []⟩ ∧
      old.document.notesAt (some "s".toList) = [Entry.standalone "# a".toList 3] ∧
      merge.session.document.notesAt (some "s".toList) = [Entry.standalone "# b".toList 3] := by
  intro old merge
  exact ⟨.step .empty (.load none [] _ rfl), rfl, rfl, by decide +kernel⟩

end Document

end IniKeeper
