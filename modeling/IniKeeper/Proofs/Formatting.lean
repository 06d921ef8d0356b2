import IniKeeper.Proofs.StatementEffects
import IniKeeper.Proofs.Restoring
import IniKeeper.Proofs.Warnings

/-!
# What formatting keeps

Formatting reads a text into a new document and writes that document. On the way the lines are
taken apart into headers, settings and comment blocks, and each of these is put where it belongs.
Where nothing is defined twice, every one of them comes last in the document when it is stated, so
the text that is written has the lines of the text that was read, in their order: only white space
around names, keys and values changes, and blank lines come and go.
-/

namespace IniKeeper

open Occurrences (firsts last)
open Layout

/-! ### Lines as they are written -/

/-- A line as formatting writes it: the trimmed name of a header between its brackets, the trimmed
key and value of a setting around its equals sign, and any other line as it is. -/
def Line.normal (padded : Bool) (raw : Text) : Text :=
  match classify raw with
  | .header name => ['['] ++ name ++ [']']
  | .setting key value =>
    Text.trimEnd (Text.trim key ++ (if padded then [' ', '=', ' '] else ['=']) ++ Text.trim value)
  | .blank | .comment _ | .unrecognized _ => raw

/-- A text without its empty lines. -/
def Text.dropEmptyLines (text : Text) : Text :=
  endLines ((text.splitOn '\n').filter fun row => !row.isEmpty)

/-- Ended lines are cut at their ends, and nothing stands behind the last one. -/
theorem Text.splitOn_endLines {rows : List Text} (clean : ∀ row ∈ rows, '\n' ∉ row) :
    (endLines rows).splitOn '\n' = rows ++ [[]] := by
  induction rows with
  | nil => rfl
  | cons row rows ih =>
    have rest := ih fun other member => clean other (List.mem_cons_of_mem row member)
    rw [endLines_cons, List.splitOn_append_cons_self_of_not_mem (clean row List.mem_cons_self),
      rest, List.cons_append]

/-- Empty lines are dropped from a text by dropping them from its lines. -/
theorem Text.dropEmptyLines_endLines {rows : List Text} (clean : ∀ row ∈ rows, '\n' ∉ row) :
    dropEmptyLines (endLines rows) = endLines (rows.filter fun row => !row.isEmpty) := by
  have nothing : ([[]] : List Text).filter (fun row => !row.isEmpty) = [] := rfl
  rw [dropEmptyLines, splitOn_endLines clean, List.filter_append, nothing, List.append_nil]

/-- The lines in which a statement is written, without blank ones. -/
def Statement.rows (padded : Bool) : Statement → List Text
  | header name comment => commentRows comment ++ [['['] ++ name ++ [']']]
  | setting _ key value comment => commentRows comment ++ [settingLine padded key value]
  | note _ block _ => commentRows (some block)

namespace Rows

variable {rows : List Text} {raw : Text}

/-- The block right above the end of some lines has the comment lines there. -/
theorem commentRows_block? (rows : List Text) : commentRows (block? rows) = run rows := by
  unfold block?
  split
  · rename_i empty
    exact (List.isEmpty_iff.mp empty).symm
  · rename_i some
    have clean : ∀ row ∈ run rows, '\n' ∉ row := fun row member =>
      (Line.isComment_iff.mp (isComment_of_mem_run member)).2
    exact Text.splitOn_joinLines clean (by simpa using some)

/-- What is written of a line that ends a run of comment lines: the run, and the line itself unless
it is blank. -/
theorem normal_concat (padded : Bool) (clean : '\n' ∉ raw) (wellFormed : Line.WellFormed raw) :
    run rows ++ ([raw].filter fun raw => !raw.all Text.isBlank).map (Line.normal padded) =
      (statement? rows raw).toList.flatMap (Statement.rows padded) ++ run (rows ++ [raw]) := by
  have allowed := (Line.wellFormed_iff clean).mp wellFormed
  have shape := Line.classify_shape raw
  have solid : Line.classify raw ≠ .blank → raw.all Text.isBlank = false := by
    intro other
    rw [Bool.eq_false_iff]
    exact fun all => other (Line.classify_of_allBlank (Text.all_isBlank_iff.mp all))
  have above := commentRows_block? rows
  rw [run_concat]
  cases kind : Line.classify raw with
  | blank =>
    rw [kind] at shape
    have plain : Line.isComment raw = false := Line.isComment_eq_false (by simp [kind])
    have blank := Text.all_isBlank_iff.mpr shape
    simp only [statement?, kind, plain, blank, Bool.false_eq_true, if_false, Bool.not_true,
      List.filter_cons_of_neg, not_false_eq_true, List.filter_nil, List.map_nil, List.append_nil]
    rw [← above]
    cases block? rows with
    | none => rfl
    | some block => simp [Statement.rows]
  | comment whole =>
    rw [kind] at shape
    have kept := solid (by simp [kind])
    simp [statement?, kind, shape.1, kept, Line.normal]
  | header name =>
    have plain : Line.isComment raw = false := Line.isComment_eq_false (by simp [kind])
    have kept := solid (by simp [kind])
    simp [statement?, kind, plain, kept, Line.normal, Statement.rows, above]
  | setting key value =>
    have plain : Line.isComment raw = false := Line.isComment_eq_false (by simp [kind])
    have kept := solid (by simp [kind])
    simp [statement?, kind, plain, kept, Line.normal, Statement.rows, above, settingLine, separator]
  | unrecognized whole =>
    rw [kind] at allowed
    exact allowed.elim

/-- The lines of a text that are not blank are those in which its statements are written, and the
comment lines right above its end. -/
theorem map_normal (padded : Bool) (clean : ∀ row ∈ rows, '\n' ∉ row)
    (wellFormed : ∀ row ∈ rows, Line.WellFormed row) :
    (rows.filter fun raw => !raw.all Text.isBlank).map (Line.normal padded) =
      (statements rows).flatMap (Statement.rows padded) ++ run rows := by
  induction rows using List.reverseRecOn with
  | nil => rfl
  | append_singleton rows raw ih =>
    have above := ih (fun row inside => clean row (by simp [inside]))
      fun row inside => wellFormed row (by simp [inside])
    rw [List.filter_append, List.map_append, above, List.append_assoc,
      normal_concat padded (clean raw (by simp)) (wellFormed raw (by simp)), statements_concat,
      List.flatMap_append, List.append_assoc]

/-! ### Nothing is defined twice -/

/-- What a line states that defines nothing again has a key that its section does not have. -/
theorem key_ne_of_statement? {said : Statement} {slot : Slot}
    (clean : ∀ row ∈ rows ++ [raw], '\n' ∉ row)
    (wellFormed : ∀ row ∈ rows ++ [raw], Line.WellFormed row)
    (states : statement? rows raw = some said) (gives : said.slot? said.sect = some slot)
    (new : ∀ address, said.address? = some address → address ∉ settings rows) :
    ∀ old ∈ (Meaning.sect (statements rows) said.sect).entries, old.key ≠ slot.name := by
  intro old member
  obtain ⟨other, inside, rfl⟩ := List.mem_map.mp member
  rw [Meaning.key_entry]
  refine (follows_statement? clean wellFormed states).apart slot gives other inside ?_
  rintro rfl
  obtain ⟨one, before, also⟩ := Occurrences.mem_firsts.mp inside
  have above := Meaning.mem_of_mem_body before
  cases other with
  | key key =>
    have addressOf : ∀ {one : Statement}, one.slot? said.sect = some (.key key) →
        one.address? = some (said.sect, key) := by
      intro one gives
      cases one with
      | header name comment => contradiction
      | setting home found value comment =>
        obtain ⟨rfl, same⟩ := Option.ite_none_right_eq_some.mp gives
        cases Option.some.inj same
        rfl
      | note home block line =>
        obtain ⟨-, same⟩ := Option.ite_none_right_eq_some.mp gives
        cases Option.some.inj same
    exact new _ (addressOf gives) (List.mem_filterMap.mpr ⟨one, above, addressOf also⟩)
  | note block line =>
    -- Comment blocks above this line were settled above it, too.
    have bound := @stored_statements rows (fun row inside => clean row (by simp [inside]))
      (fun row inside => wellFormed row (by simp [inside])) one above _ _ also
    have here := (stored_of_statement? (clean raw (by simp)) (wellFormed raw (by simp)) states
      gives).2 block line rfl
    have order := bound.2
    omega

end Rows

/-! ### Statements are written where they come last -/

/-- The last section is that of the last header, if no header comes up twice. -/
theorem Meaning.exists_last {said : List Statement}
    (distinct : (said.filterMap Statement.header?).Nodup) :
    ∃ done, document said = ⟨done ++ [sect said (last Statement.header? said)]⟩ ∧
      ∀ other ∈ done, other.name ≠ last Statement.header? said := by
  have headers : firsts Statement.header? said = said.filterMap Statement.header? :=
    Roster.eraseDups_of_nodup distinct
  have apart := nodup_names said
  rw [document, last]
  rw [names, headers] at apart ⊢
  rcases List.eq_nil_or_concat (said.filterMap Statement.header?) with none | ⟨front, name, some⟩
  · rw [none]
    exact ⟨[], rfl, fun other member => absurd member List.not_mem_nil⟩
  · rw [some, List.concat_eq_append] at apart ⊢
    refine ⟨(Option.none :: front.map Option.some).map (sect said), ?_, ?_⟩
    · simp
    · intro other member
      obtain ⟨home, inside, rfl⟩ := List.mem_map.mp member
      rw [List.map_append, ← List.cons_append, List.nodup_append] at apart
      rw [List.getLast?_concat]
      exact apart.2.2 home inside _ (List.mem_singleton_self _)

namespace Document

variable {done : List Section} {home comment : Option Text} {acc : List Entry}

/-- The lines of a document that are not empty. -/
def written (document : Document) (padded : Bool) : List Text :=
  (document.rows padded).filter fun row => !row.isEmpty

/-- A comment has no empty lines. -/
theorem filter_commentRows {comment : Option Text} (valid : Comment.isValid comment = true) :
    (commentRows comment).filter (fun row => !row.isEmpty) = commentRows comment := by
  refine List.filter_eq_self.mpr fun row member => ?_
  obtain ⟨marker, rest, -, rfl⟩ :=
    Line.exists_marker_of_isComment (isComment_of_mem_commentRows valid member)
  rfl

/-- An entry at the end of the last section is written last. -/
theorem written_concat (padded : Bool) (entry : Entry) :
    (Document.mk (done ++ [⟨home, comment, acc ++ [entry]⟩])).written padded =
      (Document.mk (done ++ [⟨home, comment, acc⟩])).written padded ++
        (entryRows padded entry).filter fun row => !row.isEmpty := by
  have same : headRows ⟨home, comment, acc ++ [entry]⟩ = headRows ⟨home, comment, acc⟩ := rfl
  simp only [written, rows, List.flatMap_append, List.flatMap_cons, List.flatMap_nil,
    sectionRows, same, List.filter_append, List.append_nil, List.append_assoc]

/-- A header with a new name is written last. -/
theorem written_header {document : Document} (padded : Bool) {name : Text}
    (valid : Comment.isValid comment = true) (new : some name ∉ document.sectionNames) :
    (document.accept (.header name comment)).written padded =
      document.written padded ++ Statement.rows padded (.header name comment) := by
  have others : ∀ sect ∈ document.sections, sect.name ≠ some name := fun sect member same =>
    new (List.mem_map.mpr ⟨sect, member, same⟩)
  have added : document.accept (.header name comment) =
      ⟨document.sections ++ [⟨some name, comment.or none, []⟩]⟩ :=
    congrArg Document.mk (Roster.upsert_of_forall_ne _ _ _ _ _ others)
  rw [added, Option.or_none]
  simp [written, rows, sectionRows, headRows, filter_commentRows valid, Statement.rows]

/-- A setting with a new key is written last. -/
theorem written_setting (padded : Bool) {key value : Text} {given : Option Text}
    (others : ∀ sect ∈ done, sect.name ≠ home) (stored : Guard.StoredKey key)
    (valid : Comment.isValid given = true) (new : ∀ old ∈ acc, old.key ≠ key) :
    (accept ⟨done ++ [⟨home, comment, acc⟩]⟩ (.setting home key value given)).written padded =
      (Document.mk (done ++ [⟨home, comment, acc⟩])).written padded ++
        Statement.rows padded (.setting home key value given) := by
  have kind : (⟨key, some value, given⟩ : Entry).isStandalone = false :=
    Entry.isStandalone_of_storedKey stored
  have solid : [settingLine padded key value].filter (fun row => !row.isEmpty) =
      [settingLine padded key value] := by
    rw [settingLine_eq]
    simp
  rw [accept, @amend_last done ⟨home, comment, acc⟩ _ others, Section.change,
    Roster.upsert_of_forall_ne _ _ _ _ _ new]
  refine (written_concat padded _).trans (congrArg _ ?_)
  simp only [Entry.new, Option.or_none]
  rw [entryRows, kind, if_neg Bool.false_ne_true, List.filter_append, filter_commentRows valid]
  exact congrArg _ solid

/-- A comment block of its own is written last, also where it becomes a comment. -/
theorem written_note (padded : Bool) {block : Text} {line : Nat}
    (others : ∀ sect ∈ done, sect.name ≠ home) (valid : Comment.isBlock block = true)
    (new : ∀ old ∈ acc, old.key ≠ (Entry.standalone block line).key) :
    (accept ⟨done ++ [⟨home, comment, acc⟩]⟩ (.note home block line)).written padded =
      (Document.mk (done ++ [⟨home, comment, acc⟩])).written padded ++
        Statement.rows padded (.note home block line) := by
  have solid := @filter_commentRows (some block) valid
  have standing : (standingRows (some block)).filter (fun row => !row.isEmpty) =
      commentRows (some block) := by
    rw [standingRows, List.filter_append]
    rw [commentRows] at solid
    rw [solid]
    exact List.append_nil _
  rw [accept]
  split
  · rename_i top
    have untouched : home = none ∧ comment = none ∧ acc = [] := by
      by_contra touched
      rw [atTop_last others fun unnamed uncommented some => touched ⟨unnamed, uncommented, some⟩]
        at top
      contradiction
    obtain ⟨rfl, rfl, rfl⟩ := untouched
    rw [@amend_last done ⟨none, none, []⟩ _ others]
    have bare : standingRows none = [] := rfl
    simp only [written, rows, List.flatMap_append, List.flatMap_singleton, sectionRows, headRows,
      List.flatMap_nil, List.append_nil, List.filter_append, standing, bare, Statement.rows]
  · rw [@amend_last done ⟨home, comment, acc⟩ _ others, Section.put, Section.change,
      Roster.upsert_of_forall_ne _ _ _ _ _ new]
    refine (written_concat padded _).trans (congrArg _ ?_)
    rw [entryRows, if_pos (Entry.isStandalone_standalone block line valid)]
    exact standing

end Document

/-- Where nothing is defined twice, the document that lines describe is written as they state it. -/
theorem Rows.written_statements {rows : List Text} (padded : Bool)
    (clean : ∀ row ∈ rows, '\n' ∉ row) (wellFormed : ∀ row ∈ rows, Line.WellFormed row)
    (distinctHeaders : (headers rows).Nodup) (distinctSettings : (settings rows).Nodup) :
    (Meaning.document (statements rows)).written padded =
      (statements rows).flatMap (Statement.rows padded) := by
  induction rows using List.reverseRecOn with
  | nil => rfl
  | append_singleton rows raw ih =>
    have distinctBefore := distinctHeaders
    rw [headers_concat, List.nodup_append] at distinctBefore
    rw [settings_concat, List.nodup_append] at distinctSettings
    have above := ih (fun row inside => clean row (by simp [inside]))
      (fun row inside => wellFormed row (by simp [inside])) distinctBefore.1 distinctSettings.1
    cases states : statement? rows raw with
    | none =>
      rw [statements_concat, states, Option.toList_none, List.append_nil]
      exact above
    | some said =>
      have follows := follows_statement? clean wellFormed states
      have new : ∀ address, said.address? = some address → address ∉ settings rows := by
        intro address sets member
        exact distinctSettings.2.2 address member address (by simp [states, sets]) rfl
      have apart := fun slot => @key_ne_of_statement? rows raw said slot clean wellFormed states
      rw [← headers_statements] at distinctBefore
      obtain ⟨done, whole, others⟩ := Meaning.exists_last distinctBefore.1
      have valid := isValid_block? rows
      rw [statements_concat, states, Option.toList_some, List.flatMap_append, ← above,
        ← Meaning.accept_document follows, List.flatMap_singleton]
      rw [last_header?_statements] at whole others
      rcases statement?_cases states with
        ⟨block, -, waiting, rfl⟩ | ⟨name, kind, rfl⟩ | ⟨key, value, kind, rfl⟩
      · rw [waiting] at valid
        rw [whole]
        exact Document.written_note padded others valid
          (apart (.note block _) (if_pos rfl) fun address sets => by contradiction)
      · have opens : Line.header? raw = some name := Line.header?_eq_some_iff.mpr kind
        refine Document.written_header padded valid fun member => ?_
        have again : name ∈ (statements rows).filterMap Statement.header? := by
          simpa [Document.sectionNames, Meaning.document, Meaning.names, Meaning.sect, firsts]
            using member
        exact distinctBefore.2.2 name again name (by simp [opens]) rfl
      · rw [whole]
        have allowed := (Line.wellFormed_iff (clean raw (by simp))).mp (wellFormed raw (by simp))
        rw [kind] at allowed
        obtain ⟨stored, -⟩ := Guard.stored_of_setting (clean raw (by simp)) kind allowed.1
          allowed.2.1 allowed.2.2
        exact Document.written_setting padded others stored valid
          (apart (.key _) (if_pos rfl) new)

namespace Document

/-- Reading a text that defines nothing twice and writing the document keeps every line that is not
blank, in its place: the text that is written has the lines of the text that was read, each in its
normal form and ended by a line feed, with only empty lines added between them. -/
theorem render_keeps_lines {origin content : Text} {report : Report}
    (accepted : (parse empty origin content).result = .ok report) (quiet : report.warnings = [])
    (padded : Bool) :
    Text.dropEmptyLines ((parse empty origin content).document.render padded) =
      Text.endLines (((Text.lines content).filter fun raw => !raw.all Text.isBlank).map
        (Line.normal padded)) := by
  have wellFormed := (isOk_parse_iff sound_empty origin content).mp ⟨report, accepted⟩
  obtain ⟨counted, stored, sound⟩ := parse_of_wellFormed sound_empty origin wellFormed
  obtain rfl := Except.ok.inj (accepted.symm.trans counted)
  have allWellFormed := Rows.wellFormed_whole wellFormed
  have clean := Rows.clean_whole content
  have silent : Rows.along Rows.warning? [] (Text.lines content ++ [[]]) = [] := by
    rw [Rows.warnings_concat]
    exact List.append_eq_nil_iff.mpr ⟨quiet, rfl⟩
  obtain ⟨distinctHeaders, distinctSettings⟩ := Rows.nodup_of_warnings silent
  have written := Rows.written_statements padded clean allWellFormed distinctHeaders
    distinctSettings
  have said := Rows.map_normal padded clean allWellFormed
  have ended : Rows.run (Text.lines content ++ [[]]) = [] := by
    rw [Rows.run_concat]
    rfl
  rw [ended, List.filter_append, List.map_append] at said
  rw [stored, Rows.wholeStatements, Rows.acceptAll_statements clean allWellFormed] at sound ⊢
  rw [render_eq, Text.dropEmptyLines_endLines fun row member =>
    (sound.rendered_of_mem_rows member).clean]
  refine congrArg Text.endLines (written.trans ?_)
  simpa using said.symm

/-- A block at the top, headers with white space, settings with and without comments, and a block at
the end all keep their places. -/
theorem render_keeps_lines_every_kind :
    Text.dropEmptyLines ((parse empty []
        "; top\n\n k = v \n# a\n [ s ]\n\n# b\nx=\n# e".toList).document.render true) =
      "; top\nk = v\n# a\n[s]\n# b\nx =\n# e\n".toList := by
  have accepted : (parse empty []
      "; top\n\n k = v \n# a\n [ s ]\n\n# b\nx=\n# e".toList).result = .ok ⟨9, 1, 2, []⟩ := by
    rfl
  rw [render_keeps_lines accepted rfl true]
  decide +kernel

end Document

end IniKeeper
