import IniKeeper.Proofs.Interpretation
import IniKeeper.Proofs.Restoring
import IniKeeper.Proofs.Warnings

/-!
# Reading a rendered document

The text of a document with a history is always accepted, without warnings, and is read into the
normal form of the document. A document that setters alone built has no comment blocks of its own,
so its text gives back all of it except for carriage returns at the ends of comment lines, which a
comment may have and no text can keep.
-/

namespace IniKeeper

open Guard (StoredName)
open Layout

namespace Document

/-- The headers that a document states are the names of its sections. -/
theorem filterMap_header?_said (document : Document) (padded : Bool) :
    (document.said padded).filterMap Statement.header? =
      document.sections.flatMap fun sect => sect.name.toList := by
  have ofEntries : ∀ home above entries,
      (entriesSaid padded home above entries).filterMap Statement.header? = [] := by
    intro home above entries
    refine List.filterMap_eq_nil_iff.mpr fun said member => ?_
    obtain ⟨placed, -, rfl⟩ := List.mem_map.mp member
    simp only [entrySaid]
    split <;> rfl
  have ofSection : ∀ sect above,
      (sectionSaid padded above sect).filterMap Statement.header? = sect.name.toList := by
    intro sect above
    rw [sectionSaid, List.filterMap_append, ofEntries, List.append_nil, headSaid]
    cases sect.name with
    | some name => rfl
    | none => cases sect.comment <;> rfl
  rw [said, List.filterMap_flatMap]
  simp only [ofSection]
  exact flatMap_stack _ _ _ fun sect : Section => sect.name.toList

/-- The key that an entry of a section sets, if it sets one. -/
def address? (home : Option Text) (entry : Entry) : Option (Option Text × Text) :=
  if entry.isStandalone then none else some (home, entry.key)

/-- The keys that a document sets are those of its settings. -/
theorem filterMap_address?_said (document : Document) (padded : Bool) :
    (document.said padded).filterMap Statement.address? =
      document.sections.flatMap fun sect => sect.entries.filterMap (address? sect.name) := by
  have ofEntries : ∀ home above entries,
      (entriesSaid padded home above entries).filterMap Statement.address? =
        entries.filterMap (address? home) := by
    intro home above entries
    rw [entriesSaid, List.filterMap_map]
    conv_rhs => rw [← map_fst_stack (entryLines padded) above entries, List.filterMap_map]
    refine congrArg (List.filterMap · _) (funext fun placed => ?_)
    simp only [Function.comp_apply, entrySaid, address?]
    split <;> rfl
  have ofSection : ∀ sect above, (sectionSaid padded above sect).filterMap Statement.address? =
      sect.entries.filterMap (address? sect.name) := by
    intro sect above
    have head : (headSaid above sect).filterMap Statement.address? = [] := by
      rw [headSaid]
      cases sect.name with
      | some name => rfl
      | none => cases sect.comment <;> rfl
    rw [sectionSaid, List.filterMap_append, ofEntries, head, List.nil_append]
  rw [said, List.filterMap_flatMap]
  simp only [ofSection]
  exact flatMap_stack _ _ _ fun sect : Section => sect.entries.filterMap (address? sect.name)

/-- No header comes up twice in the lines of a sound document. -/
theorem Sound.nodup_headers {document : Document} (sound : document.Sound) (padded : Bool) :
    (Rows.headers (document.rows padded)).Nodup := by
  rw [← Rows.headers_statements, (sound.statements_rows padded).1, filterMap_header?_said]
  have names : document.sections.flatMap (fun sect => sect.name.toList) =
      document.sectionNames.filterMap id := by
    rw [sectionNames, List.filterMap_map, List.filterMap_eq_flatMap_toList]
    rfl
  rw [names]
  refine sound.distinct.filterMap fun one other name first second => ?_
  exact (Option.mem_def.mp first).trans (Option.mem_def.mp second).symm

/-- No key comes up twice in one section in the lines of a sound document. -/
theorem Sound.nodup_settings {document : Document} (sound : document.Sound) (padded : Bool) :
    (Rows.settings (document.rows padded)).Nodup := by
  rw [Rows.settings, (sound.statements_rows padded).1, filterMap_address?_said, List.nodup_flatMap]
  constructor
  · intro sect member
    have distinct := (sound.sections sect member).distinct
    refine List.pairwise_filterMap.mpr ((List.pairwise_map.mp distinct).imp ?_)
    rintro one other different found first again second rfl
    obtain ⟨-, same⟩ := Option.ite_none_left_eq_some.mp first
    obtain ⟨-, also⟩ := Option.ite_none_left_eq_some.mp second
    exact different (Prod.mk.inj (Option.some.inj (same.trans also.symm))).2
  · refine (List.pairwise_map.mp sound.distinct).imp ?_
    intro one other different found first second
    obtain ⟨entry, -, same⟩ := List.mem_filterMap.mp first
    obtain ⟨again, -, also⟩ := List.mem_filterMap.mp second
    obtain ⟨-, same⟩ := Option.ite_none_left_eq_some.mp same
    obtain ⟨-, also⟩ := Option.ite_none_left_eq_some.mp also
    exact different (Prod.mk.inj (Option.some.inj (same.trans also.symm))).1

end Document

/-! ### The top of a document -/

/-- A section has the same lines with a comment block at its top in either place. -/
theorem Section.sectionRows_lift (padded : Bool) (sect : Section) :
    sectionRows padded sect.lift = sectionRows padded sect := by
  unfold lift
  split
  · rename_i entry rest
    split
    · rename_i standalone
      simp only [sectionRows, headRows, List.flatMap_cons, entryRows, standalone, if_true,
        standingRows, List.nil_append]
    · rfl
  · rfl

/-- In a sound section only one comment block becomes the comment. -/
theorem Section.Sound.lift_lift {sect : Section} (sound : sect.Sound) :
    sect.lift.lift = sect.lift := by
  obtain ⟨name, comment, entries⟩ := sect
  cases name with
  | some name => rfl
  | none =>
    cases comment with
    | some block => rfl
    | none =>
      cases entries with
      | nil => rfl
      | cons entry rest =>
        cases standalone : entry.isStandalone with
        | false => simp [Section.lift, standalone]
        | true =>
          rcases sound.entries entry List.mem_cons_self with setting | note
          · rw [setting.not_isStandalone] at standalone
            contradiction
          · obtain ⟨block, line, -, rfl⟩ := note
            simp only [Section.lift, standalone, if_true]
            rfl

namespace Document

/-- A document has the same lines with a comment block at its top in either place. -/
theorem rows_lift (document : Document) (padded : Bool) :
    document.lift.rows padded = document.rows padded := by
  rw [rows, lift, List.flatMap_map, rows]
  simp only [Section.sectionRows_lift]

/-- In a sound document only one comment block becomes the comment of the global section. -/
theorem Sound.lift_lift {document : Document} (sound : document.Sound) :
    document.lift.lift = document.lift := by
  rw [Document.lift, Document.lift, List.map_map]
  exact congrArg Document.mk (List.map_congr_left fun sect member =>
    (sound.sections sect member).lift_lift)

/-! ### Reading what was written -/

/-- The text of a sound document is accepted without warnings and read into the normal form. -/
theorem Sound.parse_render {document : Document} (sound : document.Sound) (padded : Bool)
    (origin : Text) :
    ∃ report, (Document.empty.parse origin (document.render padded)).result = .ok report ∧
      report.warnings = [] ∧
      (Document.empty.parse origin (document.render padded)).document = document.normal padded := by
  have tidy := sound.dropReturns.lift
  have lines : Text.lines (document.render padded) =
      document.dropReturns.lift.rows padded := by
    rw [sound.lines_render, rows_lift]
  have wellFormed : ∀ raw ∈ Text.lines (document.render padded), Line.WellFormed raw := by
    intro raw member
    rw [lines] at member
    exact (tidy.rendered_of_mem_rows member).wellFormed
  obtain ⟨accepted, stored, -⟩ := parse_of_wellFormed sound_empty origin wellFormed
  refine ⟨_, accepted, ?_, ?_⟩
  · rw [lines]
    exact Rows.warnings_eq_nil (tidy.nodup_headers padded) (tidy.nodup_settings padded)
  · rw [stored, lines, tidy.wholeStatements_rows, normal_eq]
    exact tidy.acceptAll_said padded sound.dropReturns.lift_lift

/-- The text of a document with a history is accepted on its own, without warnings, and is read into
the normal form, which is the same for both ways of writing equals signs. The normal form has the
sections, keys and values of the document in their order, and its comments without carriage returns
at the ends of their lines; where there are none to lose, it has the same text. -/
theorem parse_render_reachable {document : Document} (reachable : document.Reachable)
    (padded : Bool) (origin : Text) :
    (∃ report, (Document.empty.parse origin (document.render padded)).result = .ok report ∧
        report.warnings = []) ∧
      (Document.empty.parse origin (document.render padded)).document = document.normal padded ∧
      (∀ again, document.normal again = document.normal padded) ∧
      (document.normal padded).outline = document.outline ∧
      (document.normal padded).blocks = document.blocks.map Comment.dropReturns ∧
      (document.Unreturned →
        ∀ again, (document.normal padded).render again = document.render again) := by
  have sound := reachable.sound
  obtain ⟨report, accepted, quiet, stored⟩ := sound.parse_render padded origin
  exact ⟨⟨report, accepted, quiet⟩, stored, fun again => sound.normal_padded again padded,
    outline_normal padded document, blocks_normal padded document,
    fun unreturned again => render_normal padded again unreturned⟩

/-- A comment block that was left at the top becomes the comment of the global section, another one
takes the number of the blank line below it, and a comment loses its carriage return. -/
theorem parse_render_reachable_untopped :
    (Document.empty.parse [] (render ⟨[⟨none, none, [⟨"#4".toList, none, some "# s".toList⟩,
        ⟨"k".toList, some "1".toList, some "# a\r".toList⟩,
        ⟨"#7".toList, none, some "# e".toList⟩]⟩]⟩ true)).document =
      ⟨[⟨none, some "# s".toList, [⟨"k".toList, some "1".toList, some "# a".toList⟩,
        ⟨"#6".toList, none, some "# e".toList⟩]⟩]⟩ := by
  have read : Reachable ⟨[⟨none, some "# c".toList, [⟨"#4".toList, none, some "# s".toList⟩,
      ⟨"k".toList, some "1".toList, none⟩, ⟨"#7".toList, none, some "# e".toList⟩]⟩]⟩ :=
    .step .empty (.parse [] "# c\n\n# s\n\nk=1\n# e".toList (by decide +kernel))
  have uncommented : Reachable ⟨[⟨none, none, [⟨"#4".toList, none, some "# s".toList⟩,
      ⟨"k".toList, some "1".toList, none⟩, ⟨"#7".toList, none, some "# e".toList⟩]⟩]⟩ :=
    .step read (.set (@Setter.ensureSection _ _ none none rfl))
  have reached : Reachable ⟨[⟨none, none, [⟨"#4".toList, none, some "# s".toList⟩,
      ⟨"k".toList, some "1".toList, some "# a\r".toList⟩,
      ⟨"#7".toList, none, some "# e".toList⟩]⟩]⟩ :=
    .step uncommented (.set (@Setter.setComment _ _ none (some "# a\r".toList) "k".toList none rfl))
  rw [(parse_render_reachable reached true []).2.1]
  decide +kernel

/-! ### What setters alone built -/

/-- Where every entry is a setting, nothing has a number and nothing is lifted. -/
theorem OnlySettings.normal_eq {document : Document} (only : document.OnlySettings)
    (padded : Bool) : document.normal padded = document.dropReturns := by
  have rekeyed : document.rekey padded = document := by
    have entries : ∀ sect ∈ document.sections, ∀ above, sect.rekey padded above = sect := by
      intro sect member above
      have same : rekeyAll padded (above + headLines sect) sect.entries = sect.entries := by
        conv_rhs => rw [← map_fst_stack (entryLines padded) (above + headLines sect) sect.entries]
        refine List.map_congr_left fun placed inside => Entry.rekey_of_setting ?_ _
        exact (only sect member placed.1 (mem_of_mem_stack inside)).not_isStandalone
      rw [Section.rekey, same]
    have sections := map_fst_stack (sectionLines padded) 0 document.sections
    refine congrArg Document.mk (Eq.trans (List.map_congr_left fun placed inside => ?_) sections)
    exact entries placed.1 (mem_of_mem_stack inside) placed.2
  have lifted : document.lift = document := by
    refine congrArg Document.mk (map_eq_self_iff.mpr fun sect member => ?_)
    unfold Section.lift
    split
    · rename_i entry rest
      have setting := only _ member entry List.mem_cons_self
      rw [setting.not_isStandalone, if_neg Bool.false_ne_true]
    · rfl
  rw [normal, rekeyed, lifted]

/-- What setters alone built is read back from its text without the carriage returns at the ends of
comment lines, so all of it comes back exactly when no comment line ends in one. -/
theorem parse_render_built {document : Document} (built : document.Built) (padded : Bool)
    (origin : Text) :
    (∃ report, (Document.empty.parse origin (document.render padded)).result = .ok report) ∧
      (Document.empty.parse origin (document.render padded)).document = document.dropReturns ∧
      ((Document.empty.parse origin (document.render padded)).document = document ↔
        document.Unreturned) := by
  obtain ⟨report, accepted, -, stored⟩ := built.reachable.sound.parse_render padded origin
  rw [built.onlySettings.normal_eq] at stored
  refine ⟨⟨report, accepted⟩, stored, ?_⟩
  rw [stored]
  exact dropReturns_eq_self_iff

/-- A key that was set with a comment comes back with its comment. -/
theorem parse_render_built_comment :
    (Document.empty.parse [] (render ⟨[⟨none, none,
        [⟨"k".toList, some "v".toList, some "# a".toList⟩]⟩]⟩ false)).document =
      ⟨[⟨none, none, [⟨"k".toList, some "v".toList, some "# a".toList⟩]⟩]⟩ := by
  have built : Built ⟨[⟨none, none, [⟨"k".toList, some "v".toList, some "# a".toList⟩]⟩]⟩ :=
    .set .empty
      (@Setter.setStringWithComment _ _ none (some "# a".toList) "k".toList "v".toList none rfl)
  refine (parse_render_built built false []).2.2.mpr ?_
  unfold Unreturned
  decide

/-- A key that was set with a comment ending in a carriage return does not come back as it was. -/
theorem parse_render_built_return :
    Built ⟨[⟨none, none, [⟨"k".toList, some "v".toList, some "# a\r".toList⟩]⟩]⟩ ∧
      (Document.empty.parse [] (render ⟨[⟨none, none,
          [⟨"k".toList, some "v".toList, some "# a\r".toList⟩]⟩]⟩ false)).document ≠
        ⟨[⟨none, none, [⟨"k".toList, some "v".toList, some "# a\r".toList⟩]⟩]⟩ := by
  constructor
  · exact .set .empty
      (@Setter.setStringWithComment _ _ none (some "# a\r".toList) "k".toList "v".toList none rfl)
  · decide +kernel

end Document

end IniKeeper
