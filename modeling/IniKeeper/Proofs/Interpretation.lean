import IniKeeper.Proofs.Meaning

/-!
# What an accepted text is read into

The lines of a text state things in an order that fits: sections are open before anything stands in
them, and no comment block shares its made-up key with a key or with another block. So a text that
is accepted is read into the document that it describes, and in it every comment block that belongs
to no key stands exactly once.
-/

namespace IniKeeper

open Occurrences (firsts last)

/-! ### What lines state -/

namespace Rows

variable {rows : List Text} {raw : Text} {said : Statement}

/-- A statement that is no header belongs to the section that is open. -/
theorem sect_of_statement? (states : statement? rows raw = some said)
    (other : said.header? = none) : said.sect = openSection rows := by
  rcases statement?_cases states with
    ⟨block, -, -, rfl⟩ | ⟨name, -, rfl⟩ | ⟨key, value, -, rfl⟩
  · rfl
  · contradiction
  · rfl

/-- The header that a statement comes from is that of its line. -/
theorem header?_statement? (rows : List Text) (raw : Text) :
    (statement? rows raw).bind Statement.header? = Line.header? raw := by
  unfold statement? Line.header?
  cases Line.classify raw with
  | blank => cases block? rows <;> rfl
  | header name => rfl
  | comment text => rfl
  | setting key value => rfl
  | unrecognized text => rfl

/-- What a well-formed line puts into a section is stored, a comment block at this line. -/
theorem stored_of_statement? (clean : '\n' ∉ raw) (wellFormed : Line.WellFormed raw)
    (states : statement? rows raw = some said) {home : Option Text} {slot : Slot}
    (gives : said.slot? home = some slot) :
    slot.Stored (rows.length + 1) ∧
      ∀ block line, slot = .note block line → line = rows.length + 1 := by
  have allowed := (Line.wellFormed_iff clean).mp wellFormed
  rcases statement?_cases states with
    ⟨block, -, waiting, rfl⟩ | ⟨name, -, rfl⟩ | ⟨key, value, kind, rfl⟩
  · obtain ⟨-, same⟩ := Option.ite_none_right_eq_some.mp gives
    obtain rfl := Option.some.inj same
    have valid := isValid_block? rows
    rw [waiting] at valid
    refine ⟨⟨valid, Nat.le_refl _⟩, fun found line same => ?_⟩
    injection same with _ here
    exact here.symm
  · contradiction
  · rw [kind] at allowed
    obtain ⟨-, same⟩ := Option.ite_none_right_eq_some.mp gives
    obtain rfl := Option.some.inj same
    exact ⟨(Guard.stored_of_setting clean kind allowed.1 allowed.2.1 allowed.2.2).1,
      fun block line same => by contradiction⟩

/-- A comment block of its own is settled at the line that states it. -/
theorem line_of_statement? (states : statement? rows raw = some said) {line : Nat}
    (gives : said.line? = some line) : line = rows.length + 1 := by
  rcases statement?_cases states with
    ⟨block, -, -, rfl⟩ | ⟨name, -, rfl⟩ | ⟨key, value, -, rfl⟩
  · exact (Option.some.inj gives).symm
  · contradiction
  · contradiction

/-- The statements of one more line are those before and its own. -/
theorem mem_statements_concat :
    said ∈ statements (rows ++ [raw]) ↔
      said ∈ statements rows ∨ statement? rows raw = some said := by
  rw [statements_concat, List.mem_append, Option.mem_toList]

/-- The headers among the statements are those of the lines. -/
theorem headers_statements (rows : List Text) :
    (statements rows).filterMap Statement.header? = headers rows := by
  induction rows using List.reverseRecOn with
  | nil => rfl
  | append_singleton rows raw ih =>
    rw [statements_concat, List.filterMap_append, ih, headers_concat, ← header?_statement? rows raw]
    cases states : statement? rows raw with
    | none => rfl
    | some said => cases gives : said.header? <;> simp [gives]

/-- The section opened last is the one that is open. -/
theorem last_header?_statements (rows : List Text) :
    last Statement.header? (statements rows) = openSection rows := by
  rw [last, headers_statements, openSection]

/-- Every statement stands in a section that is there. -/
theorem placed_statements (rows : List Text) :
    ∀ one ∈ statements rows, one.sect ∈ Meaning.names (statements rows) := by
  induction rows using List.reverseRecOn with
  | nil =>
    intro one member
    exact absurd member List.not_mem_nil
  | append_singleton rows raw ih =>
    cases states : statement? rows raw with
    | none =>
      rw [statements_concat, states, Option.toList_none, List.append_nil]
      exact ih
    | some said =>
      have opened : said.header? = none → said.sect ∈ Meaning.names (statements rows) := by
        intro other
        rw [sect_of_statement? states other, ← last_header?_statements]
        exact Meaning.last_header?_mem _
      intro one member
      rw [statements_concat, states, Option.toList_some, Meaning.names_concat opened,
        Roster.mem_enroll]
      rcases mem_statements_concat.mp member with before | here
      · exact .inl (ih one before)
      · rw [states] at here
        exact .inr (congrArg Statement.sect (Option.some.inj here).symm)

/-- What well-formed lines put into sections is stored. -/
theorem stored_statements (clean : ∀ row ∈ rows, '\n' ∉ row)
    (wellFormed : ∀ row ∈ rows, Line.WellFormed row) :
    ∀ one ∈ statements rows, ∀ home slot, one.slot? home = some slot → slot.Stored rows.length := by
  induction rows using List.reverseRecOn with
  | nil =>
    intro one member
    exact absurd member List.not_mem_nil
  | append_singleton rows raw ih =>
    intro one member home slot gives
    rw [List.length_append, List.length_singleton]
    rcases mem_statements_concat.mp member with before | here
    · have stored := ih (fun row inside => clean row (by simp [inside]))
        (fun row inside => wellFormed row (by simp [inside])) one before home slot gives
      exact stored.mono (Nat.le_succ _)
    · exact (stored_of_statement? (clean raw (by simp)) (wellFormed raw (by simp)) here gives).1

/-- What a well-formed line states may come next. -/
theorem follows_statement? (clean : ∀ row ∈ rows ++ [raw], '\n' ∉ row)
    (wellFormed : ∀ row ∈ rows ++ [raw], Line.WellFormed row)
    (states : statement? rows raw = some said) : Meaning.Follows (statements rows) said := by
  have before := @stored_statements rows (fun row inside => clean row (by simp [inside]))
    fun row inside => wellFormed row (by simp [inside])
  refine ⟨placed_statements rows, fun other => ?_, fun slot gives other member different => ?_⟩
  · rw [sect_of_statement? states other, last_header?_statements]
  · obtain ⟨one, inside, also⟩ := Occurrences.mem_firsts.mp member
    have old := before one (Meaning.mem_of_mem_body inside) _ other also
    obtain ⟨new, here⟩ :=
      stored_of_statement? (clean raw (by simp)) (wellFormed raw (by simp)) states gives
    cases slot with
    | key name =>
      cases other with
      | key found => exact fun same => different (congrArg Slot.key same)
      | note block line => exact Slot.name_note_ne old.1 new
    | note block line =>
      cases other with
      | key found => exact (Slot.name_note_ne new.1 old).symm
      | note found above =>
        intro same
        have equal := Slot.name_note_inj same
        have place := here block line rfl
        have order := old.2
        omega

/-- Accepting what well-formed lines state gives the document that they describe. -/
theorem acceptAll_statements (clean : ∀ row ∈ rows, '\n' ∉ row)
    (wellFormed : ∀ row ∈ rows, Line.WellFormed row) :
    Document.empty.acceptAll (statements rows) = Meaning.document (statements rows) := by
  induction rows using List.reverseRecOn with
  | nil => rfl
  | append_singleton rows raw ih =>
    have above := ih (fun row inside => clean row (by simp [inside]))
      fun row inside => wellFormed row (by simp [inside])
    rw [statements_concat, Document.acceptAll_append, above]
    cases states : statement? rows raw with
    | none =>
      rw [Option.toList_none, List.append_nil]
      rfl
    | some said => exact Meaning.accept_document (follows_statement? clean wellFormed states)

/-- Comment blocks of their own are settled at lines of the text, one below the other. -/
theorem lines_statements (rows : List Text) :
    ((statements rows).filterMap Statement.line?).Pairwise (· < ·) ∧
      ∀ line ∈ (statements rows).filterMap Statement.line?, line ≤ rows.length := by
  induction rows using List.reverseRecOn with
  | nil => exact ⟨List.Pairwise.nil, fun line member => absurd member List.not_mem_nil⟩
  | append_singleton rows raw ih =>
    obtain ⟨ordered, bounded⟩ := ih
    rw [statements_concat, List.filterMap_append, List.length_append, List.length_singleton]
    have here : ∀ line ∈ (statement? rows raw).toList.filterMap Statement.line?,
        line = rows.length + 1 := by
      intro line member
      obtain ⟨said, states, gives⟩ := List.mem_filterMap.mp member
      exact line_of_statement? (Option.mem_toList.mp states) gives
    refine ⟨List.pairwise_append.mpr ⟨ordered, ?_, ?_⟩, ?_⟩
    · cases states : statement? rows raw with
      | none => exact List.Pairwise.nil
      | some said =>
        cases gives : said.line? with
        | none => simp [gives]
        | some line => simp [gives]
    · intro above member line last
      have first := bounded above member
      have second := here line last
      omega
    · intro line member
      rcases List.mem_append.mp member with above | last
      · exact Nat.le_succ_of_le (bounded line above)
      · exact Nat.le_of_eq (here line last)

end Rows

/-! ### Comment blocks of their own -/

namespace Slot

/-- Whether a slot holds a comment block of its own. -/
def isNote : Slot → Bool
  | key _ => false
  | note _ _ => true

end Slot

namespace Meaning

variable {said : List Statement} {home : Option Text}

/-- Comment blocks of a section are entries of their own in it. -/
theorem map_filter_slots (all said : List Statement) (home : Option Text) :
    ((said.filterMap (Statement.slot? home)).filter Slot.isNote).map (entry all home) =
      said.filterMap (Statement.note? home) := by
  induction said with
  | nil => rfl
  | cons first rest ih =>
    cases first with
    | header name comment => exact ih
    | setting sect key value comment =>
      have adds : (Statement.setting sect key value comment).note? home = none := rfl
      rw [List.filterMap_cons_none adds]
      by_cases same : sect = home
      · have gives : (Statement.setting sect key value comment).slot? home = some (.key key) :=
          if_pos same
        rw [List.filterMap_cons_some gives, List.filter_cons_of_neg (by simp [Slot.isNote])]
        exact ih
      · have silent : (Statement.setting sect key value comment).slot? home = none := if_neg same
        rw [List.filterMap_cons_none silent]
        exact ih
    | note sect block line =>
      by_cases same : sect = home
      · have gives : (Statement.note sect block line).slot? home = some (.note block line) :=
          if_pos same
        have adds : (Statement.note sect block line).note? home =
            some (Entry.standalone block line) := if_pos same
        rw [List.filterMap_cons_some gives, List.filterMap_cons_some adds,
          List.filter_cons_of_pos rfl, List.map_cons, ih]
        rfl
      · have silent : (Statement.note sect block line).slot? home = none := if_neg same
        have adds : (Statement.note sect block line).note? home = none := if_neg same
        rw [List.filterMap_cons_none silent, List.filterMap_cons_none adds]
        exact ih

/-- Comment blocks that are settled at different lines have different slots. -/
theorem nodup_filter_slots (ordered : (said.filterMap Statement.line?).Pairwise (· < ·)) :
    ((said.filterMap (Statement.slot? home)).filter Slot.isNote).Nodup := by
  rw [List.filter_filterMap]
  refine List.pairwise_filterMap.mpr ((List.pairwise_filterMap.mp ordered).imp ?_)
  intro one other below slot gives found also same
  obtain ⟨gives, isNote⟩ := Option.filter_eq_some_iff.mp gives
  obtain ⟨also, -⟩ := Option.filter_eq_some_iff.mp also
  have line : ∀ {said : Statement} {block : Text} {line : Nat},
      said.slot? home = some (.note block line) → said.line? = some line := by
    intro said block line states
    cases said with
    | header name comment => contradiction
    | setting sect key value comment =>
      obtain ⟨-, wrong⟩ := Option.ite_none_right_eq_some.mp states
      cases Option.some.inj wrong
    | note sect found above =>
      obtain ⟨-, right⟩ := Option.ite_none_right_eq_some.mp states
      cases Option.some.inj right
      rfl
  subst same
  cases slot with
  | key name => contradiction
  | note block place => exact Nat.lt_irrefl place (below place (line gives) place (line also))

/-- Among the entries of a section each comment block of its own stands once, and nothing else
looks like one. -/
theorem filter_entries {bound : Nat}
    (stored : ∀ one ∈ said, ∀ slot, one.slot? home = some slot → slot.Stored bound)
    (ordered : (said.filterMap Statement.line?).Pairwise (· < ·)) :
    (entries said home).filter Entry.isStandalone = said.filterMap (Statement.note? home) := by
  have kinds : ∀ slot ∈ firsts (Statement.slot? home) said,
      (Entry.isStandalone ∘ entry said home) slot = slot.isNote := by
    intro slot member
    obtain ⟨one, inside, gives⟩ := Occurrences.mem_firsts.mp member
    have fits := stored one inside slot gives
    cases slot with
    | key name => exact Entry.isStandalone_of_storedKey fits
    | note block line => exact Entry.isStandalone_standalone block line fits.1
  rw [entries, List.filter_map, List.filter_congr kinds, firsts, Roster.filter_eraseDups,
    Roster.eraseDups_of_nodup (nodup_filter_slots ordered), map_filter_slots]

end Meaning

namespace Document

/-- A text that is accepted on its own is read into the document that it describes: sections in the
order of first headers, entries in the order in which they first come up, the values of last
definitions and the last comments given. Each comment block that belongs to no key stands in its
section once, in the order of the text, unless the text begins with it. -/
theorem parse_interprets_text {origin content : Text} {report : Report}
    (accepted : (parse empty origin content).result = .ok report) :
    (parse empty origin content).document =
        Meaning.document (Rows.wholeStatements (Text.lines content)) ∧
      ∀ sect ∈ (parse empty origin content).document.sections,
        sect.entries.filter Entry.isStandalone =
          (Meaning.body (Rows.wholeStatements (Text.lines content))).filterMap
            (Statement.note? sect.name) := by
  have wellFormed := (isOk_parse_iff sound_empty origin content).mp ⟨report, accepted⟩
  have whole : ∀ row ∈ Text.lines content ++ [[]], Line.WellFormed row := by
    intro row member
    rcases List.mem_append.mp member with inside | last
    · exact wellFormed row inside
    · exact .blank (List.mem_singleton.mp last ▸ Text.allBlank_nil)
  have clean : ∀ row ∈ Text.lines content ++ [[]], '\n' ∉ row := by
    intro row member
    rcases List.mem_append.mp member with inside | last
    · exact Text.not_mem_of_mem_lines inside
    · exact List.mem_singleton.mp last ▸ List.not_mem_nil
  have described : (parse empty origin content).document =
      Meaning.document (Rows.wholeStatements (Text.lines content)) := by
    rw [(parse_of_wellFormed sound_empty origin wellFormed).2.1]
    exact Rows.acceptAll_statements clean whole
  refine ⟨described, fun sect member => ?_⟩
  rw [described] at member
  obtain ⟨home, -, rfl⟩ := List.mem_map.mp member
  refine Meaning.filter_entries (fun one inside slot gives =>
    Rows.stored_statements clean whole one (Meaning.mem_of_mem_body inside) home slot gives) ?_
  exact (Rows.lines_statements _).1.sublist ((Meaning.body_sublist _).filterMap _)

/-- A key that is defined under two headers keeps its place and its comment and takes the second
value; the last comment block is settled by the end of the text. -/
theorem parse_interprets_text_second_definition :
    (parse empty [] "# top\n\n[s]\n# a\nk = 1\n[t]\n[s]\nk=2\n; end".toList).document =
      ⟨[⟨none, some "# top".toList, []⟩,
        ⟨some "s".toList, none, [⟨"k".toList, some "2".toList, some "# a".toList⟩,
          ⟨";10".toList, none, some "; end".toList⟩]⟩,
        ⟨some "t".toList, none, []⟩]⟩ := by
  have accepted :
      (parse empty [] "# top\n\n[s]\n# a\nk = 1\n[t]\n[s]\nk=2\n; end".toList).result =
        .ok ⟨9, 3, 2, [⟨7, .sectionAgain "s".toList, "[s]".toList⟩,
          ⟨8, .keyAgain (some "s".toList) "k".toList, "k=2".toList⟩]⟩ := by
    rfl
  rw [(parse_interprets_text accepted).1]
  decide +kernel

end Document

end IniKeeper
