import IniKeeper.Proofs.Restating

/-!
# Accepting what a document states

A document that is not untouched at its top is restored from what it states: each section and each
entry is added where it stood, since no section and no key stands twice. Only comment blocks of
their own take the numbers of the lines at which they are settled, and these numbers grow, so no two
of them are kept under the same key.
-/

namespace IniKeeper

open Guard (StoredName)
open Layout

/-! ### Keys stay apart -/

namespace Entry

/-- A setting and a comment block of its own do not share their keys. -/
theorem key_ne_of_isStandalone {one other : Entry} (setting : one.isStandalone = false)
    (standalone : other.isStandalone = true) : one.key ≠ other.key := by
  intro same
  unfold isStandalone at setting standalone
  rw [same, standalone] at setting
  contradiction

/-- Comment blocks of their own do not share their keys under different numbers. -/
theorem key_rekey_ne {one other : Entry} (first : one.isStandalone = true)
    (second : other.isStandalone = true) {line further : Nat} (different : line ≠ further) :
    (one.rekey line).key ≠ (other.rekey further).key := by
  have marked : ∀ {entry : Entry}, entry.isStandalone = true → ∀ line,
      ∃ marker, (entry.rekey line).key = marker :: Nat.toDigits 10 line := by
    intro entry standalone line
    rw [rekey, if_pos standalone]
    unfold isStandalone at standalone
    cases key : entry.key with
    | nil => simp [key] at standalone
    | cons marker rest => exact ⟨marker, rfl⟩
  obtain ⟨marker, here⟩ := marked first line
  obtain ⟨again, there⟩ := marked second further
  intro same
  rw [here, there] at same
  exact different (line_eq_of_toDigits (List.cons.inj same).2)

end Entry

/-- No key stands twice in a section whose comment blocks took other numbers. -/
theorem Section.Sound.distinct_rekey {sect : Section} (sound : sect.Sound) (padded : Bool)
    (above : Nat) : ((sect.rekey padded above).entries.map Entry.key).Nodup := by
  have ordered := (pairwise_stack (entryLines padded) (above + headLines sect) sect.entries).1
  have keys : (stack (entryLines padded) (above + headLines sect) sect.entries).Pairwise
      fun one other => one.1.key ≠ other.1.key := by
    have distinct := sound.distinct
    rw [← map_fst_stack (entryLines padded) (above + headLines sect) sect.entries,
      List.map_map] at distinct
    exact List.pairwise_map.mp distinct
  rw [Section.rekey, rekeyAll, List.map_map]
  refine List.pairwise_map.mpr ((ordered.and keys).imp_of_mem ?_)
  rintro one other first second ⟨order, different⟩
  have kinds := sound.entries other.1 (mem_of_mem_stack second)
  change (one.1.rekey (one.2 + entryLines padded one.1)).key ≠
    (other.1.rekey (other.2 + entryLines padded other.1)).key
  cases here : one.1.isStandalone with
  | false =>
    rw [Entry.rekey_of_setting here]
    cases there : other.1.isStandalone with
    | false =>
      rw [Entry.rekey_of_setting there]
      exact different
    | true =>
      exact Entry.key_ne_of_isStandalone here ((Entry.isStandalone_rekey _ _).trans there)
  | true =>
    cases there : other.1.isStandalone with
    | false =>
      rw [Entry.rekey_of_setting there]
      exact (Entry.key_ne_of_isStandalone there ((Entry.isStandalone_rekey _ _).trans here)).symm
    | true =>
      rcases kinds with setting | note
      · rw [setting.not_isStandalone] at there
        contradiction
      · have some := entryLines_pos padded note
        exact Entry.key_rekey_ne here there (by omega)

/-- Where nothing is lifted in a global section without a comment, its first entry is a setting. -/
theorem Section.not_isStandalone_of_lift {sect : Section} (same : sect.lift = sect)
    (unnamed : sect.name = none) (uncommented : sect.comment = none) :
    ∀ entry, sect.entries.head? = some entry → entry.isStandalone = false := by
  intro entry first
  cases standalone : entry.isStandalone with
  | false => rfl
  | true =>
    obtain ⟨name, comment, entries⟩ := sect
    obtain rfl := unnamed
    obtain rfl := uncommented
    cases entries with
    | nil => contradiction
    | cons head tail =>
      obtain rfl := Option.some.inj first
      simp only [lift, standalone, if_true] at same
      have shorter := congrArg (fun sect => sect.entries.length) same
      simp at shorter

/-! ### Adding at the end -/

namespace Document

variable {done : List Section} {home comment : Option Text} {acc : List Entry}

/-- The last section is changed where it stands, if it shares its name with no other. -/
theorem amend_last {last : Section} {edit : Section → Section}
    (others : ∀ sect ∈ done, sect.name ≠ last.name) :
    amend ⟨done ++ [last]⟩ last.name edit = ⟨done ++ [edit last]⟩ :=
  congrArg Document.mk (Roster.upsert_append_cons _ _ _ _ _ _ _ others rfl)

/-- Where the global section comes last and has a comment or an entry, nothing is at the top. -/
theorem atTop_last (others : ∀ sect ∈ done, sect.name ≠ home)
    (touched : home = none → comment = none → acc ≠ []) :
    atTop ⟨done ++ [⟨home, comment, acc⟩]⟩ home = false := by
  cases home with
  | some name => rfl
  | none =>
    have found : section? ⟨done ++ [⟨none, comment, acc⟩]⟩ none = some ⟨none, comment, acc⟩ := by
      have missing : done.find? (fun sect => decide (sect.name = address none)) = none :=
        List.find?_eq_none.mpr fun sect member => by
          rw [decide_eq_true_eq]
          exact others sect member
      rw [section?, Roster.get?, List.find?_append, missing]
      rfl
    simp only [atTop, sectionComment?, found]
    cases comment with
    | some block => rfl
    | none => simpa using touched rfl rfl

/-- A setting is added to the last section. -/
theorem accept_last_setting (others : ∀ sect ∈ done, sect.name ≠ home) {entry : Entry}
    (setting : entry.IsSetting) (new : ∀ old ∈ acc, old.key ≠ entry.key) :
    accept ⟨done ++ [⟨home, comment, acc⟩]⟩
        (.setting home entry.key entry.valueText entry.comment) =
      ⟨done ++ [⟨home, comment, acc ++ [entry]⟩]⟩ := by
  obtain ⟨given, -⟩ := exists_valueText setting
  rw [accept, @amend_last done ⟨home, comment, acc⟩ _ others, Section.change,
    Roster.upsert_of_forall_ne _ _ _ _ _ new]
  have whole : (⟨entry.key, some entry.valueText, entry.comment.or none⟩ : Entry) = entry := by
    rw [Option.or_none, ← given]
  exact congrArg (fun added => (⟨done ++ [⟨home, comment, acc ++ [added]⟩]⟩ : Document)) whole

/-- A comment block of its own is added to the last section. -/
theorem accept_last_note (others : ∀ sect ∈ done, sect.name ≠ home)
    (touched : home = none → comment = none → acc ≠ []) {block : Text} {line : Nat}
    (new : ∀ old ∈ acc, old.key ≠ (Entry.standalone block line).key) :
    accept ⟨done ++ [⟨home, comment, acc⟩]⟩ (.note home block line) =
      ⟨done ++ [⟨home, comment, acc ++ [Entry.standalone block line]⟩]⟩ := by
  rw [accept, atTop_last others touched, if_neg Bool.false_ne_true,
    @amend_last done ⟨home, comment, acc⟩ _ others, Section.put, Section.change,
    Roster.upsert_of_forall_ne _ _ _ _ _ new]

/-- An entry is added to the last section, under the number at which it is settled. -/
theorem accept_last (others : ∀ sect ∈ done, sect.name ≠ home) {entry : Entry}
    (sound : entry.IsSetting ∨ entry.IsNote) {line : Nat}
    (touched : home = none → comment = none → acc = [] → entry.isStandalone = false)
    (new : ∀ old ∈ acc, old.key ≠ (entry.rekey line).key) :
    accept ⟨done ++ [⟨home, comment, acc⟩]⟩ (entrySaid home line entry) =
      ⟨done ++ [⟨home, comment, acc ++ [entry.rekey line]⟩]⟩ := by
  rcases sound with setting | note
  · have kind := setting.not_isStandalone
    rw [Entry.rekey_of_setting kind] at new ⊢
    rw [entrySaid, kind, if_neg Bool.false_ne_true, accept_last_setting others setting new]
  · have kind := note.isStandalone
    rw [note.rekey] at new ⊢
    rw [entrySaid, kind, if_pos rfl, accept_last_note others _ new]
    intro unnamed uncommented empty
    rw [touched unnamed uncommented empty] at kind
    contradiction

/-- Entries are added to the last section one after the other. -/
theorem acceptAll_entries (padded : Bool) (others : ∀ sect ∈ done, sect.name ≠ home)
    {entries : List Entry} (sound : ∀ entry ∈ entries, entry.IsSetting ∨ entry.IsNote)
    (above : Nat)
    (touched : home = none → comment = none → acc = [] →
      ∀ entry, entries.head? = some entry → entry.isStandalone = false)
    (distinct : ((acc ++ rekeyAll padded above entries).map Entry.key).Nodup) :
    acceptAll ⟨done ++ [⟨home, comment, acc⟩]⟩ (entriesSaid padded home above entries) =
      ⟨done ++ [⟨home, comment, acc ++ rekeyAll padded above entries⟩]⟩ := by
  induction entries generalizing acc above with
  | nil => simp [entriesSaid, rekeyAll, stack, acceptAll]
  | cons entry rest ih =>
    have split : rekeyAll padded above (entry :: rest) =
        entry.rekey (above + entryLines padded entry) ::
          rekeyAll padded (above + entryLines padded entry) rest := rfl
    rw [split] at distinct ⊢
    have new : ∀ old ∈ acc, old.key ≠ (entry.rekey (above + entryLines padded entry)).key := by
      rw [List.map_append, List.nodup_append] at distinct
      intro old member
      exact distinct.2.2 old.key (List.mem_map_of_mem member) _ (by simp)
    have first := accept_last others (sound entry List.mem_cons_self)
      (fun unnamed uncommented empty => touched unnamed uncommented empty entry rfl) new
    have further := @ih (acc ++ [entry.rekey (above + entryLines padded entry)])
      (fun other member => sound other (List.mem_cons_of_mem entry member))
      (above + entryLines padded entry) (fun _ _ empty => by simp at empty)
      (by rw [List.append_assoc, List.singleton_append]; exact distinct)
    rw [List.append_assoc, List.singleton_append] at further
    rw [← further, ← first]
    rfl

/-- What a section with a new name states adds it. -/
theorem acceptAll_section (padded : Bool) {sect : Section} (sound : sect.Sound) (above : Nat)
    {name : Text} (named : sect.name = some name)
    (new : ∀ old ∈ done, old.name ≠ some name) :
    acceptAll ⟨done⟩ (sectionSaid padded above sect) = ⟨done ++ [sect.rekey padded above]⟩ := by
  have header : accept ⟨done⟩ (.header name sect.comment) =
      ⟨done ++ [⟨some name, sect.comment, []⟩]⟩ := by
    have added : amend ⟨done⟩ (some name) (fun found =>
          { found with comment := sect.comment.or found.comment }) =
        ⟨done ++ [⟨some name, sect.comment.or none, []⟩]⟩ :=
      congrArg Document.mk (Roster.upsert_of_forall_ne _ _ _ _ _ new)
    rw [accept, added, Option.or_none]
  have head : acceptAll ⟨done⟩ (headSaid above sect) =
      ⟨done ++ [⟨some name, sect.comment, []⟩]⟩ := by
    rw [headSaid, named]
    exact header
  have distinct := sound.distinct_rekey padded above
  have entries := @acceptAll_entries done (some name) sect.comment [] padded new sect.entries
    sound.entries (above + headLines sect)
    (fun missing => absurd missing (Option.some_ne_none name)) distinct
  rw [List.nil_append] at entries
  rw [sectionSaid, acceptAll_append, head, named, entries, Section.rekey, named]

/-- What the global section states at the top of a text restores it, if its first entry is a setting
or it has a comment. -/
theorem acceptAll_global (padded : Bool) {sect : Section} (sound : sect.Sound)
    (unnamed : sect.name = none)
    (touched : sect.comment = none →
      ∀ entry, sect.entries.head? = some entry → entry.isStandalone = false) :
    acceptAll empty (sectionSaid padded 0 sect) = ⟨[sect.rekey padded 0]⟩ := by
  have head : acceptAll empty (headSaid 0 sect) = ⟨[⟨none, sect.comment, []⟩]⟩ := by
    rw [headSaid, unnamed]
    cases sect.comment with
    | none => rfl
    | some block => rfl
  have distinct := sound.distinct_rekey padded 0
  have entries := @acceptAll_entries [] none sect.comment [] padded
    (fun old member => absurd member List.not_mem_nil) sect.entries sound.entries
    (0 + headLines sect) (fun _ uncommented _ => touched uncommented) distinct
  rw [List.nil_append, List.nil_append, List.nil_append] at entries
  rw [sectionSaid, acceptAll_append, head, unnamed, entries, Section.rekey, unnamed]

/-- What sections with new names state adds them, one after the other. -/
theorem acceptAll_sections (padded : Bool) {sections : List Section}
    (sound : ∀ sect ∈ sections, sect.Sound)
    (named : ∀ sect ∈ sections, ∃ name, sect.name = some name ∧ StoredName name) (above : Nat)
    (distinct : ((done ++ sections).map Section.name).Nodup) :
    acceptAll ⟨done⟩ ((stack (sectionLines padded) above sections).flatMap
        fun placed => sectionSaid padded placed.2 placed.1) =
      ⟨done ++ (stack (sectionLines padded) above sections).map
        fun placed => placed.1.rekey padded placed.2⟩ := by
  induction sections generalizing done above with
  | nil => simp [stack, acceptAll]
  | cons sect rest ih =>
    obtain ⟨name, here, -⟩ := named sect List.mem_cons_self
    have new : ∀ old ∈ done, old.name ≠ some name := by
      rw [List.map_append, List.nodup_append] at distinct
      intro old member
      exact distinct.2.2 old.name (List.mem_map_of_mem member) (some name) (by simp [here])
    have first := acceptAll_section padded (sound sect List.mem_cons_self) above here new
    have further := @ih (done ++ [sect.rekey padded above])
      (fun other member => sound other (List.mem_cons_of_mem sect member))
      (fun other member => named other (List.mem_cons_of_mem sect member))
      (above + sectionLines padded sect) (by
        rw [List.append_assoc, List.map_append, List.singleton_append, List.map_cons]
        rw [List.map_append, List.map_cons] at distinct
        exact distinct)
    rw [stack, List.flatMap_cons, acceptAll_append, first, further, List.map_cons,
      List.append_assoc, List.singleton_append]

/-- Where no comment block of its own is left at the top, a document is restored from what it
states, with other numbers. -/
theorem Sound.acceptAll_said {document : Document} (sound : document.Sound) (padded : Bool)
    (lifted : document.lift = document) :
    acceptAll empty (document.said padded) = document.rekey padded := by
  obtain ⟨global, rest, sections, unnamed, named⟩ := sound.exists_global
  have whole := sound.sections global (sections ▸ List.mem_cons_self)
  have same : global.lift = global :=
    map_eq_self_iff.mp (congrArg Document.sections lifted) global (sections ▸ List.mem_cons_self)
  have distinct := sound.distinct
  rw [sectionNames, sections] at distinct
  have others := @acceptAll_sections [global.rekey padded 0] padded rest
    (fun sect member => sound.sections sect (sections ▸ List.mem_cons_of_mem global member)) named
    (0 + sectionLines padded global) distinct
  rw [said, sections, stack, List.flatMap_cons, acceptAll_append,
    acceptAll_global padded whole unnamed (Section.not_isStandalone_of_lift same unnamed), others,
    rekey, sections]
  rfl

end Document

end IniKeeper
