import IniKeeper.Proofs.Keeping
import IniKeeper.Proofs.RepeatedChanges

/-!
# Merging a text again

A text that is merged again finds all its changes made. Only the comment block that a text begins
with is treated by the state of the document: it becomes the comment of an untouched global section,
and is put among the entries otherwise. So a text that is merged again changes a document exactly if
its first merge found the global section untouched and the text begins with such a block.
-/

namespace IniKeeper

open Occurrences (last)

namespace Document

/-! ### The top of a document -/

/-- A statement that is no comment block at the top is put into its section. -/
theorem accept_eq_keepAll {document : Document} {one : Statement}
    (below : ∀ sect block line, one = .note sect block line → document.atTop sect = false) :
    document.accept one = document.keepAll [one] := by
  cases one with
  | header name comment => rfl
  | setting sect key value comment => rfl
  | note sect block line =>
    rw [accept, below sect block line rfl, if_neg Bool.false_ne_true]
    rfl

/-- More statements are put into their sections after the others. -/
theorem keepAll_append (document : Document) (said more : List Statement) :
    document.keepAll (said ++ more) = (document.keepAll said).keepAll more := by
  refine congrArg Document.mk ?_
  rw [sectionChanges, List.map_append]
  exact Roster.upsertAll_append _ _

/-- Where the global section is not untouched, all statements are put into their sections. -/
theorem acceptAll_eq_keepAll {document : Document} (touched : document.atTop none = false)
    (said : List Statement) : document.acceptAll said = document.keepAll said := by
  induction said using List.reverseRecOn with
  | nil => rfl
  | append_singleton said one ih =>
    have below : ∀ sect, (document.acceptAll said).atTop sect = false := by
      intro sect
      cases sect with
      | none => rw [atTop_acceptAll, touched, Bool.false_and]
      | some name => rfl
    rw [acceptAll_append, keepAll_append, acceptAll_singleton,
      accept_eq_keepAll fun sect _ _ _ => below sect, ih]

/-- What lines state is put into sections, unless it begins with a comment block. -/
theorem acceptAll_eq_keepAll_of_top? (document : Document) {rows : List Text}
    (bare : Meaning.top? (Rows.statements rows) = none) :
    document.acceptAll (Rows.statements rows) = document.keepAll (Rows.statements rows) := by
  induction rows using List.reverseRecOn with
  | nil => rfl
  | append_singleton rows raw ih =>
    rw [Rows.statements_concat] at bare ⊢
    have bareAbove : Meaning.top? (Rows.statements rows) = none := by
      cases above : Rows.statements rows with
      | nil => rfl
      | cons first rest =>
        rw [above] at bare
        cases first <;> first | rfl | contradiction
    have above := ih bareAbove
    cases states : Rows.statement? rows raw with
    | none =>
      rw [Option.toList_none, List.append_nil]
      exact above
    | some more =>
      rw [states, Option.toList_some] at bare
      rw [Option.toList_some, acceptAll_append, keepAll_append, acceptAll_singleton]
      rcases Rows.first_or_late document states with
        ⟨nothing, -, sect, block, line, rfl, -⟩ | ⟨-, below⟩
      · rw [nothing] at bare
        contradiction
      · rw [accept_eq_keepAll below, above]

/-- What lines state changes a document once and for all, unless it begins with a comment block that
finds the global section untouched. -/
theorem Sound.acceptAll_acceptAll {document : Document} (sound : document.Sound) {rows : List Text}
    (late : document.atTop none = false ∨ Meaning.top? (Rows.statements rows) = none) :
    (document.acceptAll (Rows.statements rows)).acceptAll (Rows.statements rows) =
      document.acceptAll (Rows.statements rows) := by
  rcases late with touched | bare
  · have stays : (document.acceptAll (Rows.statements rows)).atTop none = false := by
      rw [atTop_acceptAll, touched, Bool.false_and]
    rw [acceptAll_eq_keepAll stays, acceptAll_eq_keepAll touched, keepAll_keepAll sound]
  · rw [acceptAll_eq_keepAll_of_top? _ bare, acceptAll_eq_keepAll_of_top? _ bare,
      keepAll_keepAll sound]

/-! ### A comment block at the top that comes again -/

/-- The section that is stored under a name, as statements make it. -/
theorem stored?_keepAll {document : Document} {home : Option Text} {sect : Section}
    (stored : document.stored? home = some sect) (said : List Statement) :
    (document.keepAll said).stored? home =
      some (Roster.overall (sectionChanges said) home sect) := by
  have found := @Roster.Faithful.get?_upsertAll _ _ _ _ _ _ document.sections
    (faithful_sectionChanges said) home
  rw [stored?] at stored
  rw [stored, Option.getD_some] at found
  refine found.trans ?_
  split
  · rfl
  · rename_i absent
    rw [Roster.overall_of_not_mem absent]

/-- What is made of the section that is stored counts, and nothing else of a change. -/
theorem amend_congr {document : Document} {home : Option Text} {sect : Section}
    {edit other : Section → Section} (stored : document.stored? home = some sect)
    (same : edit sect = other sect) : document.amend home edit = document.amend home other := by
  obtain ⟨named, front, rest, sections, others⟩ := List.find?_eq_some_iff_append.mp stored
  have passed : ∀ one ∈ front, one.name ≠ home := by
    intro one member
    simpa using others one member
  have here : sect.name = home := of_decide_eq_true named
  refine congrArg Document.mk ?_
  rw [sections, Roster.upsert_append_cons _ _ _ _ _ _ _ passed here,
    Roster.upsert_append_cons _ _ _ _ _ _ _ passed here, same]

/-- Changes that find nothing to do in a document, nor in what becomes of one section, find nothing
to do once the section is changed. -/
theorem settled_amend {document : Document} {changes : List (Option Text × (Section → Section))}
    {home : Option Text} {sect : Section} {edit : Section → Section}
    (distinct : document.sectionNames.Nodup)
    (settled : Roster.Settled Section.name changes document.sections)
    (stored : document.stored? home = some sect)
    (kept : ∀ sect, sect.name = home → (edit sect).name = home)
    (done : Roster.overall changes home (edit sect) = edit sect) :
    Roster.Settled Section.name changes (document.amend home edit).sections := by
  intro change member
  by_cases here : change.1 = home
  · have storedNext := @stored?_amend_self document home edit kept
    rw [stored, Option.getD_some] at storedNext
    obtain ⟨inside, named⟩ := Roster.of_get?_eq_some _ _ _ storedNext
    exact ⟨edit sect, inside, named.trans here.symm, here ▸ done⟩
  · obtain ⟨other, inside, named, same⟩ := settled change member
    have storedOther : document.stored? change.1 = some other :=
      (Roster.get?_eq_some_iff distinct).mpr ⟨inside, named⟩
    rw [← stored?_amend_other kept fun equal => here equal.symm] at storedOther
    exact ⟨other, (Roster.of_get?_eq_some _ _ _ storedOther).1, named, same⟩

/-- Where a comment block was not put among the entries when it was stated first, it is put behind
them when everything is stated again, and all that follows it finds nothing to do. -/
theorem Sound.keepAll_note_cons {document : Document} (sound : document.Sound)
    {said : List Statement} {global : Section} (stored : document.stored? none = some global)
    (untouched : global.entries = []) {block : Text} {line : Nat}
    (apart : ∀ change ∈ entryChanges said none, change.1 ≠ (Entry.standalone block line).key) :
    (document.keepAll said).keepAll (.note none block line :: said) =
      (document.keepAll said).amend none fun sect =>
        { sect with entries := sect.entries ++ [Entry.standalone block line] } := by
  have named : global.name = none := (Roster.of_get?_eq_some _ _ _ stored).2
  have faithful := faithful_entryChanges said none
  have settled := settled_entryChanges said none []
  have distinct := @Roster.Faithful.nodup_names _ _ _ _ _ _ [] faithful List.nodup_nil
  -- The entries of the global section are just those that the statements made there.
  have storedOnce := stored?_keepAll stored said
  rw [overall_sectionChanges said named, untouched] at storedOnce
  have new : ∀ old ∈ Roster.upsertAll Entry.key Entry.new (entryChanges said none) [],
      old.key ≠ (Entry.standalone block line).key := by
    intro old member
    rcases faithful.mem_names.mp (List.mem_map_of_mem member) with nothing | changed
    · exact absurd nothing List.not_mem_nil
    · obtain ⟨change, inside, same⟩ := List.mem_map.mp changed
      exact same ▸ apart change inside
  have added : (document.keepAll said).keepAll [.note none block line] =
      (document.keepAll said).amend none fun sect =>
        { sect with entries := sect.entries ++ [Entry.standalone block line] } :=
    amend_congr storedOnce (congrArg (Section.mk none _)
      (Roster.upsert_of_forall_ne _ _ _ _ _ new))
  have kept : ∀ sect : Section, sect.name = none →
      ({ sect with entries := sect.entries ++ [Entry.standalone block line] } : Section).name =
        none := fun _ named => named
  have names : (document.keepAll said).sectionNames.Nodup :=
    (faithful_sectionChanges said).nodup_names sound.distinct
  have namesNext := @Roster.nodup_enroll _ _ none _ names
  rw [← sectionNames_amend kept] at namesNext
  rw [← List.singleton_append, keepAll_append, added]
  refine congrArg Document.mk (Roster.Settled.upsertAll_eq
    (settled_amend names (settled_keepAll sound said) storedOnce kept ?_)
    (faithful_sectionChanges said) namesNext)
  have again := (settled.append [Entry.standalone block line]).upsertAll_eq faithful
    (Roster.nodup_concat distinct new)
  have made := @overall_sectionChanges said none ⟨none,
    (last (Statement.givenComment? none) said).or global.comment,
    Roster.upsertAll Entry.key Entry.new (entryChanges said none) [] ++
      [Entry.standalone block line]⟩ rfl
  rw [again, ← Option.or_assoc, Option.or_self] at made
  exact made

end Document

namespace Rows

variable {rows : List Text} {block : Text} {line : Nat} {rest : List Statement}

/-- What is stated first, if it is no header, is about the global section. -/
theorem sect_of_head? {one : Statement} (first : (statements rows).head? = some one)
    (other : one.header? = none) : one.sect = none := by
  induction rows using List.reverseRecOn with
  | nil => contradiction
  | append_singleton rows raw ih =>
    rw [statements_concat] at first
    cases above : statements rows with
    | cons before later =>
      rw [above] at first ih
      exact ih first
    | nil =>
      rw [above, List.nil_append] at first
      have states : statement? rows raw = some one := by
        rw [← first]
        cases statement? rows raw <;> rfl
      have opened := last_header?_statements rows
      rw [above] at opened
      rw [sect_of_statement? states other, ← opened]
      rfl

/-- The comment block that lines begin with is one of the global section. -/
theorem exists_of_top? (begins : Meaning.top? (statements rows) = some block) :
    ∃ line rest, statements rows = .note none block line :: rest := by
  cases stated : statements rows with
  | nil =>
    rw [stated] at begins
    contradiction
  | cons first rest =>
    rw [stated] at begins
    cases first with
    | note home found line =>
      obtain rfl : found = block := Option.some.inj begins
      have here : home = none := sect_of_head? (congrArg List.head? stated) rfl
      exact ⟨line, rest, here ▸ rfl⟩
    | header name comment => contradiction
    | setting home key value comment => contradiction

/-- What comes after a comment block that a text begins with has other keys than that block. -/
theorem apart_of_note (clean : ∀ row ∈ rows, '\n' ∉ row)
    (wellFormed : ∀ row ∈ rows, Line.WellFormed row)
    (begins : statements rows = .note none block line :: rest) :
    ∀ change ∈ entryChanges rest none, change.1 ≠ (Entry.standalone block line).key := by
  intro change member same
  obtain ⟨one, inside, gives⟩ := List.mem_filterMap.mp member
  have stated : ∀ said ∈ Statement.note none block line :: rest, said ∈ statements rows :=
    fun said there => begins ▸ there
  have reserved : Entry.isReserved (Entry.standalone block line).key = true :=
    apart_of_mem_statements clean wellFormed (stated _ List.mem_cons_self)
  have apart :=
    apart_of_mem_statements clean wellFormed (stated one (List.mem_cons_of_mem _ inside))
  cases one with
  | header name comment => contradiction
  | setting sect key value comment =>
    obtain ⟨-, equal⟩ := Option.ite_none_right_eq_some.mp gives
    obtain rfl := Option.some.inj equal
    have plain : Entry.isReserved key = false := apart
    rw [← same, plain] at reserved
    contradiction
  | note sect other further =>
    obtain ⟨-, equal⟩ := Option.ite_none_right_eq_some.mp gives
    obtain rfl := Option.some.inj equal
    have ordered := (lines_statements rows).1
    rw [begins] at ordered
    have below : line < further :=
      (List.pairwise_cons.mp ordered).1 further (List.mem_filterMap.mpr ⟨_, inside, rfl⟩)
    exact Nat.ne_of_gt below (Slot.name_note_inj same)

end Rows

namespace Document

/-- Where a text begins with a comment block and the global section is untouched, stating everything
again puts that block behind the entries of the global section, and changes nothing else. -/
theorem Sound.acceptAll_note_cons {document : Document} (sound : document.Sound) {rows : List Text}
    (clean : ∀ row ∈ rows, '\n' ∉ row) (wellFormed : ∀ row ∈ rows, Line.WellFormed row)
    (untouched : document.atTop none = true) {block : Text} {line : Nat} {rest : List Statement}
    (begins : Rows.statements rows = .note none block line :: rest) :
    (document.acceptAll (Rows.statements rows)).acceptAll (Rows.statements rows) =
      (document.acceptAll (Rows.statements rows)).amend none fun sect =>
        { sect with entries := sect.entries ++ [Entry.standalone block line] } := by
  have valid : Comment.isBlock block = true :=
    (Rows.stored_statements clean wellFormed (.note none block line)
      (begins ▸ List.mem_cons_self) none (.note block line) rfl).1
  have topped : (document.accept (.note none block line)).Sound :=
    sound.accept ⟨sound.global_mem, valid⟩
  have touched : (document.accept (.note none block line)).atTop none = false := by
    rw [atTop_accept]
    exact Bool.and_false _
  have entries : ∃ global, (document.accept (.note none block line)).stored? none = some global ∧
      global.entries = [] := by
    have stored := @stored?_amend_self document none
      (fun found => { found with comment := some block }) fun _ named => named
    rw [Document.accept, if_pos untouched]
    refine ⟨_, stored, ?_⟩
    cases stored : document.stored? none with
    | none => rfl
    | some global =>
      have bare := (Bool.and_eq_true_iff.mp untouched).2
      simpa [section?_eq, address, stored] using bare
  obtain ⟨global, stored, empty⟩ := entries
  have once : document.acceptAll (Rows.statements rows) =
      (document.accept (.note none block line)).keepAll rest := by
    rw [begins]
    exact acceptAll_eq_keepAll touched rest
  have stays : (document.acceptAll (Rows.statements rows)).atTop none = false := by
    rw [begins, atTop_acceptAll]
    exact Bool.and_false _
  rw [acceptAll_eq_keepAll stays, once, begins]
  exact topped.keepAll_note_cons stored empty (Rows.apart_of_note clean wellFormed begins)

/-- A section with one more entry is another one. -/
theorem amend_append_ne (document : Document) (home : Option Text) (entry : Entry) :
    (document.amend home fun sect => { sect with entries := sect.entries ++ [entry] }) ≠
      document := by
  intro same
  have longer := @entriesAt_amend document home
    (fun sect => { sect with entries := sect.entries ++ [entry] }) (· ++ [entry])
    (fun _ named => named) (fun _ => rfl) home
  rw [same, if_pos rfl] at longer
  simpa using congrArg List.length longer

/-- What lines state changes a document when it is stated again exactly if it begins with a comment
block that finds the global section untouched. -/
theorem Sound.acceptAll_acceptAll_iff {document : Document} (sound : document.Sound)
    {rows : List Text} (clean : ∀ row ∈ rows, '\n' ∉ row)
    (wellFormed : ∀ row ∈ rows, Line.WellFormed row) :
    (document.acceptAll (Rows.statements rows)).acceptAll (Rows.statements rows) =
        document.acceptAll (Rows.statements rows) ↔
      document.atTop none = false ∨ Meaning.top? (Rows.statements rows) = none := by
  refine ⟨fun same => ?_, sound.acceptAll_acceptAll⟩
  by_contra! top
  obtain ⟨untouched, some⟩ := top
  obtain ⟨block, begins⟩ := Option.ne_none_iff_exists'.mp some
  obtain ⟨line, rest, first⟩ := Rows.exists_of_top? begins
  rw [sound.acceptAll_note_cons clean wellFormed (by simpa using untouched) first] at same
  exact amend_append_ne _ _ _ same

/-- What lines state changes a document no more when it is stated a third time. -/
theorem Sound.acceptAll_third {document : Document} (once : document.Sound) {rows : List Text}
    (stated : ∃ before : Document, document = before.acceptAll (Rows.statements rows)) :
    (document.acceptAll (Rows.statements rows)).acceptAll (Rows.statements rows) =
      document.acceptAll (Rows.statements rows) := by
  refine once.acceptAll_acceptAll ?_
  cases begins : Meaning.top? (Rows.statements rows) with
  | none => exact .inr rfl
  | some block =>
    obtain ⟨line, rest, first⟩ := Rows.exists_of_top? begins
    obtain ⟨before, rfl⟩ := stated
    rw [atTop_acceptAll, first]
    exact .inl (Bool.and_false _)

end Document

/-- A text of well-formed lines is merged into a sound document by accepting what it states. -/
theorem Session.merge_eq {content : Text}
    (wellFormed : ∀ raw ∈ Text.lines content, Line.WellFormed raw) {session : Session}
    (sound : session.document.Sound) (origin : Text) :
    (session.merge origin content).result = .ok (Rows.report (Text.lines content)) ∧
      (session.merge origin content).session =
        ⟨session.document.acceptAll (Rows.wholeStatements (Text.lines content)), session.origin⟩ ∧
      (session.merge origin content).session.document.Sound := by
  obtain ⟨ended, stored, after⟩ := Document.parse_of_wellFormed sound origin wellFormed
  simp only [merge, ended, stored]
  exact ⟨trivial, trivial, stored ▸ after⟩

/-- A merge leaves a session as it is exactly if what the text states leaves its document so. -/
theorem Session.merge_eq_self_iff {content : Text}
    (wellFormed : ∀ raw ∈ Text.lines content, Line.WellFormed raw) {session : Session}
    (sound : session.document.Sound) (origin : Text) :
    (session.merge origin content).session = session ↔
      session.document.acceptAll (Rows.wholeStatements (Text.lines content)) =
        session.document := by
  rw [(merge_eq wellFormed sound origin).2.1]
  constructor
  · exact congrArg Session.document
  · intro same
    rw [same]

/-- A text of well-formed lines is loaded into a session without an origin by accepting what it
states in the empty document. -/
theorem Session.load_eq {content : Text}
    (wellFormed : ∀ raw ∈ Text.lines content, Line.WellFormed raw) (document : Document)
    (origin : Text) :
    (load ⟨document, none⟩ origin content).result = .ok (Rows.report (Text.lines content)) ∧
      (load ⟨document, none⟩ origin content).session =
        ⟨Document.empty.acceptAll (Rows.wholeStatements (Text.lines content)), some origin⟩ := by
  obtain ⟨ended, stored, -⟩ := Document.parse_of_wellFormed Document.sound_empty origin wellFormed
  simp only [load, ended, stored]
  exact ⟨trivial, trivial⟩

namespace Document

/-- Merging an accepted text again succeeds and changes nothing, unless the text begins with a
comment block of its own and the first merge found neither a comment nor an entry in the global
section. There the block became the comment of the global section; the second merge puts it behind
the entries, too, and changes nothing else, and a third one changes nothing. So a text that is
merged after it was loaded changes the document exactly if it begins with such a block. -/
theorem merge_again {document : Document} (reachable : document.Reachable) (before : Option Text)
    {origin content : Text} {report : Report}
    (accepted : (Session.merge ⟨document, before⟩ origin content).result = .ok report)
    (other : Text) :
    let said := Rows.wholeStatements (Text.lines content)
    let once := (Session.merge ⟨document, before⟩ origin content).session
    let twice := once.merge other content
    let loaded := Session.load ⟨document, none⟩ origin content
    twice.result = .ok report ∧
      (twice.session = once ↔ document.atTop none = false ∨ Meaning.top? said = none) ∧
      (∀ block, document.atTop none = true → Meaning.top? said = some block →
        ∃ line, twice.session.document = once.document.amend none fun sect =>
          { sect with entries := sect.entries ++ [Entry.standalone block line] }) ∧
      (twice.session.merge other content).session = twice.session ∧
      loaded.result = .ok report ∧
      ((loaded.session.merge other content).session = loaded.session ↔
        Meaning.top? said = none) := by
  intro said once twice loaded
  have sound := reachable.sound
  have wellFormed :=
    @Session.wellFormed_of_merge content ⟨document, before⟩ sound origin report accepted
  have clean := Rows.clean_whole content
  have whole := Rows.wellFormed_whole wellFormed
  obtain ⟨reported, once_eq, onceSound⟩ :=
    @Session.merge_eq content wellFormed ⟨document, before⟩ sound origin
  obtain ⟨reportedAgain, twice_eq, twiceSound⟩ :=
    @Session.merge_eq content wellFormed once onceSound other
  obtain ⟨loadReported, loaded_eq⟩ := Session.load_eq wellFormed document origin
  have loadedSound : loaded.session.document.Sound := by
    obtain ⟨-, stored, after⟩ := parse_of_wellFormed sound_empty origin wellFormed
    rw [loaded_eq]
    exact stored ▸ after
  obtain rfl := Except.ok.inj (reported.symm.trans accepted)
  have once_document : once.document = document.acceptAll said := congrArg Session.document once_eq
  have twice_document : twice.session.document = once.document.acceptAll said :=
    congrArg Session.document twice_eq
  have loaded_document : loaded.session.document = empty.acceptAll said :=
    congrArg Session.document loaded_eq
  refine ⟨reportedAgain, ?_, fun block untouched begins => ?_, ?_, loadReported, ?_⟩
  · rw [Session.merge_eq_self_iff wellFormed onceSound, once_document]
    exact sound.acceptAll_acceptAll_iff clean whole
  · obtain ⟨line, rest, first⟩ := Rows.exists_of_top? begins
    rw [twice_document, once_document]
    exact ⟨line, sound.acceptAll_note_cons clean whole untouched first⟩
  · rw [Session.merge_eq_self_iff wellFormed twiceSound, twice_document]
    exact onceSound.acceptAll_third ⟨document, once_document⟩
  · have untouched : empty.atTop none = true := rfl
    rw [Session.merge_eq_self_iff wellFormed loadedSound, loaded_document]
    have again := sound_empty.acceptAll_acceptAll_iff clean whole
    rw [untouched, Bool.true_eq_false, false_or] at again
    exact again

/-- A text that begins with a setting is merged into a document with a comment block of its own
once and for all. -/
theorem merge_again_setting :
    let old := (parse empty [] "# top\n\n[s]\n# c\na = 1\n".toList).document
    let once := (Session.merge ⟨old, none⟩ [] "k=1\n[s]\na=2\n# e\n".toList).session
    (Session.merge ⟨old, none⟩ [] "k=1\n[s]\na=2\n# e\n".toList).result = .ok ⟨4, 1, 2, []⟩ ∧
      (once.merge [] "k=1\n[s]\na=2\n# e\n".toList).session = once := by
  intro old once
  have reachable : old.Reachable := .step .empty (.parse [] _ rfl)
  have accepted : (Session.merge ⟨old, none⟩ [] "k=1\n[s]\na=2\n# e\n".toList).result =
      .ok ⟨4, 1, 2, []⟩ := rfl
  exact ⟨accepted, (merge_again reachable none accepted []).2.1.mpr (.inr rfl)⟩

/-- The comment block that a text begins with stands in the document twice after the text was
loaded and then merged, and also after it was merged into the empty document twice. -/
theorem merge_again_doubles_note :
    let loaded := (Session.new.load [] "# top\n\nk=1\n".toList).session
    let once := (Session.new.merge [] "# top\n\nk=1\n".toList).session
    loaded.document.Reachable ∧
      (loaded.merge [] "# top\n\nk=1\n".toList).result = .ok ⟨3, 0, 1, []⟩ ∧
      (loaded.merge [] "# top\n\nk=1\n".toList).session ≠ loaded ∧
      (once.merge [] "# top\n\nk=1\n".toList).session ≠ once ∧
      (loaded.merge [] "# top\n\nk=1\n".toList).session.document =
        ⟨[⟨none, some "# top".toList, [⟨"k".toList, some "1".toList, none⟩,
          Entry.standalone "# top".toList 2]⟩]⟩ := by
  intro loaded once
  exact ⟨.step .empty (.load none [] _ rfl), rfl, by decide +kernel, by decide +kernel,
    by decide +kernel⟩

end Document

end IniKeeper
