import IniKeeper.Proofs.Rosters
import IniKeeper.Proofs.Statements

/-!
# Changes that are made again

What a text states changes sections and entries under their names. Such a change sets parts of a
section or an entry and leaves the others alone, so changes that are made again, all of them in the
same order, find nothing left to do. This module proves it for lists of named things in general,
and from there for the entries of a section and for the sections of a document.
-/

namespace IniKeeper

/-! ### Changes under names -/

namespace Roster

universe u v

variable {α : Type u} {κ : Type v} [DecidableEq κ]

/-- Change elements under their names, one after the other. -/
def upsertAll (nameOf : α → κ) (fresh : κ → α) (changes : List (κ × (α → α))) (items : List α) :
    List α :=
  changes.foldl (fun before change => upsert nameOf change.1 (fresh change.1) change.2 before) items

/-- What changes make of the element of a name. -/
def overall (changes : List (κ × (α → α))) (name : κ) (a : α) : α :=
  changes.foldl (fun before change => if change.1 = name then change.2 before else before) a

/-- Whether fresh elements have their names, and changes keep the names that they are made under. -/
structure Faithful (nameOf : α → κ) (fresh : κ → α) (changes : List (κ × (α → α))) : Prop where
  /-- Fresh elements have their names. -/
  fresh : ∀ name, nameOf (fresh name) = name
  /-- Changes keep names. -/
  kept : ∀ change ∈ changes, ∀ a, nameOf a = change.1 → nameOf (change.2 a) = change.1

/-- Whether changes find nothing to do: each name is there, and its element comes out as it is. -/
def Settled (nameOf : α → κ) (changes : List (κ × (α → α))) (items : List α) : Prop :=
  ∀ change ∈ changes, ∃ a ∈ items, nameOf a = change.1 ∧ overall changes change.1 a = a

variable {nameOf : α → κ} {fresh : κ → α} {changes : List (κ × (α → α))} {items : List α}

/-- Making more changes is making them after the others. -/
theorem upsertAll_append (more : List (κ × (α → α))) (items : List α) :
    upsertAll nameOf fresh (changes ++ more) items =
      upsertAll nameOf fresh more (upsertAll nameOf fresh changes items) :=
  List.foldl_append

/-- One more change is made last. -/
theorem upsertAll_concat (change : κ × (α → α)) (items : List α) :
    upsertAll nameOf fresh (changes ++ [change]) items =
      upsert nameOf change.1 (fresh change.1) change.2 (upsertAll nameOf fresh changes items) :=
  List.foldl_append

/-- One more change is made last of those under its name. -/
theorem overall_concat (change : κ × (α → α)) (name : κ) (a : α) :
    overall (changes ++ [change]) name a =
      if change.1 = name then change.2 (overall changes name a) else overall changes name a :=
  List.foldl_append

/-- Changes under other names do nothing. -/
theorem overall_of_not_mem {name : κ} (absent : name ∉ changes.map Prod.fst) (a : α) :
    overall changes name a = a := by
  induction changes using List.reverseRecOn with
  | nil => rfl
  | append_singleton changes change ih =>
    rw [List.map_append, List.mem_append, not_or] at absent
    have other : change.1 ≠ name := fun same => absent.2 (List.mem_singleton.mpr same.symm)
    rw [overall_concat, if_neg other, ih absent.1]

omit [DecidableEq κ] in
/-- Faithful changes stay faithful without the last. -/
theorem Faithful.of_concat {change : κ × (α → α)}
    (faithful : Faithful nameOf fresh (changes ++ [change])) : Faithful nameOf fresh changes :=
  ⟨faithful.fresh, fun other member => faithful.kept other (List.mem_append_left _ member)⟩

/-- The names after one more change. -/
theorem Faithful.names_concat {change : κ × (α → α)}
    (faithful : Faithful nameOf fresh (changes ++ [change])) (items : List α) :
    (upsertAll nameOf fresh (changes ++ [change]) items).map nameOf =
      enroll change.1 ((upsertAll nameOf fresh changes items).map nameOf) := by
  have kept := faithful.kept change (by simp)
  rw [upsertAll_concat]
  exact names_upsert _ _ _ _ _ (kept _ (faithful.fresh change.1)) fun a _ => kept a

/-- The names afterwards are those before and those of the changes. -/
theorem Faithful.mem_names (faithful : Faithful nameOf fresh changes) {name : κ} :
    name ∈ (upsertAll nameOf fresh changes items).map nameOf ↔
      name ∈ items.map nameOf ∨ name ∈ changes.map Prod.fst := by
  induction changes using List.reverseRecOn with
  | nil => simp [upsertAll]
  | append_singleton changes change ih =>
    rw [faithful.names_concat, mem_enroll, ih faithful.of_concat, List.map_append, List.mem_append,
      List.map_singleton, List.mem_singleton, or_assoc]

/-- Faithful changes keep distinct names distinct. -/
theorem Faithful.nodup_names (faithful : Faithful nameOf fresh changes)
    (distinct : (items.map nameOf).Nodup) :
    ((upsertAll nameOf fresh changes items).map nameOf).Nodup := by
  induction changes using List.reverseRecOn with
  | nil => exact distinct
  | append_singleton changes change ih =>
    rw [faithful.names_concat]
    exact nodup_enroll (ih faithful.of_concat)

/-- Changes under names that are there leave the names as they are. -/
theorem Faithful.names_eq (faithful : Faithful nameOf fresh changes)
    (present : ∀ change ∈ changes, change.1 ∈ items.map nameOf) :
    (upsertAll nameOf fresh changes items).map nameOf = items.map nameOf := by
  induction changes using List.reverseRecOn with
  | nil => rfl
  | append_singleton changes change ih =>
    have above := ih faithful.of_concat fun other member => present other (by simp [member])
    rw [faithful.names_concat, above, enroll_of_mem (present change (by simp))]

/-- What a lookup gives after changes: the element of before, or else a fresh one, as the changes
under its name make it. -/
theorem Faithful.get?_upsertAll (faithful : Faithful nameOf fresh changes) (name : κ) :
    get? nameOf name (upsertAll nameOf fresh changes items) =
      if name ∈ changes.map Prod.fst then
        some (overall changes name ((get? nameOf name items).getD (fresh name)))
      else get? nameOf name items := by
  induction changes using List.reverseRecOn with
  | nil => simp [upsertAll]
  | append_singleton changes change ih =>
    have above := ih faithful.of_concat
    have kept := faithful.kept change (by simp)
    have freshNamed := kept _ (faithful.fresh change.1)
    rw [upsertAll_concat]
    by_cases here : name = change.1
    · subst here
      have found : (get? nameOf change.1 (upsertAll nameOf fresh changes items)).getD
          (fresh change.1) =
            overall changes change.1 ((get? nameOf change.1 items).getD (fresh change.1)) := by
        rw [above]
        split
        · rfl
        · rename_i absent
          rw [overall_of_not_mem absent]
      rw [get?_upsert_self _ _ _ _ _ freshNamed fun a _ => kept a, found, overall_concat,
        if_pos rfl, if_pos (by simp)]
    · have different : change.1 ≠ name := fun same => here same.symm
      have sameNames : name ∈ (changes ++ [change]).map Prod.fst ↔ name ∈ changes.map Prod.fst := by
        rw [List.map_append, List.mem_append, List.map_singleton, List.mem_singleton,
          or_iff_left here]
      rw [get?_upsert_other _ _ _ _ _ _ here freshNamed fun a _ => kept a, above, overall_concat,
        if_neg different]
      simp only [sameNames]

/-- Lists of the same distinct names in which lookups give the same are equal. -/
theorem eq_of_get?_eq {others : List α} (names : items.map nameOf = others.map nameOf)
    (distinct : (items.map nameOf).Nodup)
    (same : ∀ name, get? nameOf name items = get? nameOf name others) : items = others := by
  induction items generalizing others with
  | nil => exact (List.map_eq_nil_iff.mp names.symm).symm
  | cons a items ih =>
    cases others with
    | nil => contradiction
    | cons b others =>
      rw [List.map_cons, List.map_cons, List.cons.injEq] at names
      rw [List.map_cons, List.nodup_cons] at distinct
      have first : some a = some b := by
        have looked := same (nameOf a)
        simpa [get?, names.1] using looked
      have rest : items = others := by
        refine ih names.2 distinct.2 fun name => ?_
        by_cases here : nameOf a = name
        · have gone : ∀ {rest : List α}, nameOf a ∉ rest.map nameOf →
              get? nameOf name rest = none := by
            intro rest absent
            rw [← here]
            by_contra present
            exact absent ((isSome_get?_iff _ _ _).mp (Option.isSome_iff_ne_none.mpr present))
          rw [gone distinct.1, gone (names.2 ▸ distinct.1)]
        · have looked := same name
          simpa [get?, here, names.1 ▸ here] using looked
      rw [Option.some.inj first, rest]

/-- Changes that find nothing to do leave a list as it is. -/
theorem Settled.upsertAll_eq (settled : Settled nameOf changes items)
    (faithful : Faithful nameOf fresh changes) (distinct : (items.map nameOf).Nodup) :
    upsertAll nameOf fresh changes items = items := by
  have present : ∀ change ∈ changes, change.1 ∈ items.map nameOf := by
    intro change member
    obtain ⟨a, inside, named, -⟩ := settled change member
    exact List.mem_map.mpr ⟨a, inside, named⟩
  have names := faithful.names_eq present
  refine eq_of_get?_eq names (names ▸ distinct) fun name => ?_
  rw [faithful.get?_upsertAll]
  split
  · rename_i changed
    obtain ⟨change, member, rfl⟩ := List.mem_map.mp changed
    obtain ⟨a, inside, named, done⟩ := settled change member
    rw [(get?_eq_some_iff distinct).mpr ⟨inside, named⟩, Option.getD_some, done]
  · rfl

omit [DecidableEq κ] in
/-- An element of a new name joins distinct names. -/
theorem nodup_concat {a : α} (distinct : (items.map nameOf).Nodup)
    (new : ∀ old ∈ items, nameOf old ≠ nameOf a) : ((items ++ [a]).map nameOf).Nodup := by
  rw [List.map_append, List.map_singleton, List.nodup_append]
  refine ⟨distinct, List.nodup_singleton _, fun name before other single same => ?_⟩
  obtain ⟨old, member, rfl⟩ := List.mem_map.mp before
  exact new old member (same.trans (List.mem_singleton.mp single))

/-- Changes that find nothing to do find nothing to do where more elements are. -/
theorem Settled.append (settled : Settled nameOf changes items) (more : List α) :
    Settled nameOf changes (items ++ more) := by
  intro change member
  obtain ⟨a, inside, named, done⟩ := settled change member
  exact ⟨a, List.mem_append_left more inside, named, done⟩

/-- Changes that are made find nothing to do when they are made again, if what they make of an
element they make of it once and for all. -/
theorem Faithful.settled_upsertAll (faithful : Faithful nameOf fresh changes)
    (once : ∀ name, overall changes name
        (overall changes name ((get? nameOf name items).getD (fresh name))) =
      overall changes name ((get? nameOf name items).getD (fresh name))) :
    Settled nameOf changes (upsertAll nameOf fresh changes items) := by
  intro change member
  have found := @Faithful.get?_upsertAll _ _ _ _ _ _ items faithful change.1
  rw [if_pos (List.mem_map_of_mem member)] at found
  obtain ⟨inside, named⟩ := of_get?_eq_some _ _ _ found
  exact ⟨_, inside, named, once change.1⟩

end Roster

/-! ### What statements change in an entry and in a section -/

open Occurrences (last)

namespace Statement

/-- What a statement makes of its section, if it is no comment block at the top. -/
def revise : Statement → Section → Section
  | header _ comment => fun found => { found with comment := comment.or found.comment }
  | setting _ key value comment => fun found => found.change key fun entry =>
      { entry with value := some value, comment := comment.or entry.comment }
  | note _ block line => fun found => found.put (Entry.standalone block line)

/-- The comment that a statement gives a section with its header. -/
def givenComment? (home : Option Text) : Statement → Option Text
  | header name comment => if some name = home then comment else none
  | _ => none

/-- The change of an entry that a statement makes in a section, with the key. -/
def entryChange? (home : Option Text) : Statement → Option (Text × (Entry → Entry))
  | header _ _ => none
  | setting sect key value comment =>
    if sect = home then
      some (key, fun entry =>
        { entry with value := some value, comment := comment.or entry.comment })
    else none
  | note sect block line =>
    if sect = home then
      some ((Entry.standalone block line).key, fun _ => Entry.standalone block line)
    else none

end Statement

/-- The changes that statements make in the sections of a document, with their names. -/
def sectionChanges (said : List Statement) : List (Option Text × (Section → Section)) :=
  said.map fun one => (one.sect, one.revise)

/-- The changes that statements make in the entries of a section, with their keys. -/
def entryChanges (said : List Statement) (home : Option Text) : List (Text × (Entry → Entry)) :=
  said.filterMap (Statement.entryChange? home)

/-- Changes of entries keep their keys. -/
theorem faithful_entryChanges (said : List Statement) (home : Option Text) :
    Roster.Faithful Entry.key Entry.new (entryChanges said home) := by
  refine ⟨fun key => rfl, fun change member entry named => ?_⟩
  obtain ⟨one, -, gives⟩ := List.mem_filterMap.mp member
  cases one with
  | header name comment => contradiction
  | setting sect key value comment =>
    obtain ⟨-, same⟩ := Option.ite_none_right_eq_some.mp gives
    obtain rfl := Option.some.inj same
    exact named
  | note sect block line =>
    obtain ⟨-, same⟩ := Option.ite_none_right_eq_some.mp gives
    obtain rfl := Option.some.inj same
    rfl

/-- Changes of sections keep their names. -/
theorem faithful_sectionChanges (said : List Statement) :
    Roster.Faithful Section.name (fun name => Section.new name none) (sectionChanges said) := by
  refine ⟨fun name => rfl, fun change member sect named => ?_⟩
  obtain ⟨one, -, rfl⟩ := List.mem_map.mp member
  cases one <;> exact named

/-- A statement adds its change of an entry. -/
theorem entryChanges_concat (said : List Statement) (one : Statement) (home : Option Text) :
    entryChanges (said ++ [one]) home =
      entryChanges said home ++ (one.entryChange? home).toList := by
  rw [entryChanges, List.filterMap_append, entryChanges]
  cases gives : one.entryChange? home <;> simp [gives]

/-- A statement makes of its section what it gives and changes there. -/
theorem Statement.revise_eq (one : Statement) (sect : Section) :
    one.revise sect = ⟨sect.name, (one.givenComment? one.sect).or sect.comment,
      Roster.upsertAll Entry.key Entry.new (one.entryChange? one.sect).toList sect.entries⟩ := by
  cases one with
  | header name comment =>
    have gives : (Statement.header name comment).givenComment? (some name) = comment := if_pos rfl
    rw [Statement.sect, gives]
    rfl
  | setting home key value comment =>
    have gives : (Statement.setting home key value comment).entryChange? home =
        some (key, fun entry =>
          { entry with value := some value, comment := comment.or entry.comment }) := if_pos rfl
    rw [Statement.sect, gives]
    rfl
  | note home block line =>
    have gives : (Statement.note home block line).entryChange? home =
        some ((Entry.standalone block line).key, fun _ => Entry.standalone block line) := if_pos rfl
    rw [Statement.sect, gives]
    rfl

/-- A statement gives and changes nothing in other sections. -/
theorem Statement.silent_of_ne {one : Statement} {home : Option Text} (other : one.sect ≠ home) :
    one.givenComment? home = none ∧ one.entryChange? home = none := by
  cases one with
  | header name comment => exact ⟨if_neg other, rfl⟩
  | setting sect key value comment => exact ⟨rfl, if_neg other⟩
  | note sect block line => exact ⟨rfl, if_neg other⟩

/-- All that statements change in a section is its comment and its entries. -/
theorem overall_sectionChanges (said : List Statement) {home : Option Text} {sect : Section}
    (named : sect.name = home) :
    Roster.overall (sectionChanges said) home sect =
      ⟨home, (last (Statement.givenComment? home) said).or sect.comment,
        Roster.upsertAll Entry.key Entry.new (entryChanges said home) sect.entries⟩ := by
  induction said using List.reverseRecOn with
  | nil => exact named ▸ rfl
  | append_singleton said one ih =>
    rw [sectionChanges] at ih
    rw [sectionChanges, List.map_append, List.map_singleton, Roster.overall_concat, ih,
      Occurrences.last_concat, entryChanges_concat, Roster.upsertAll_append]
    by_cases here : one.sect = home
    · rw [if_pos here]
      refine (one.revise_eq _).trans ?_
      rw [here, Option.or_assoc]
    · obtain ⟨noComment, noChange⟩ := Statement.silent_of_ne here
      rw [if_neg here, noComment, noChange, Option.none_or]
      rfl

/-- All that statements change in an entry is that they set its value, its comment or both. -/
theorem overall_entryChanges (said : List Statement) (home : Option Text) (key : Text) :
    ∃ value comment : Option (Option Text), ∀ entry : Entry, entry.key = key →
      Roster.overall (entryChanges said home) key entry =
        ⟨key, value.getD entry.value, comment.getD entry.comment⟩ := by
  induction said using List.reverseRecOn with
  | nil => exact ⟨none, none, fun entry named => named ▸ rfl⟩
  | append_singleton said one ih =>
    obtain ⟨value, comment, above⟩ := ih
    rw [entryChanges_concat]
    cases gives : one.entryChange? home with
    | none =>
      rw [Option.toList_none, List.append_nil]
      exact ⟨value, comment, above⟩
    | some change =>
      rw [Option.toList_some]
      by_cases here : change.1 = key
      · cases one with
        | header name given => contradiction
        | setting sect found text given =>
          obtain ⟨-, same⟩ := Option.ite_none_right_eq_some.mp gives
          obtain rfl := Option.some.inj same
          refine ⟨some (some text), (given.map some).or comment, fun entry named => ?_⟩
          rw [Roster.overall_concat, if_pos here, above entry named]
          cases given <;> rfl
        | note sect block line =>
          obtain ⟨-, same⟩ := Option.ite_none_right_eq_some.mp gives
          obtain rfl := Option.some.inj same
          refine ⟨some none, some (some block), fun entry named => ?_⟩
          rw [Roster.overall_concat, if_pos here, ← here]
          rfl
      · refine ⟨value, comment, fun entry named => ?_⟩
        rw [Roster.overall_concat, if_neg here]
        exact above entry named

/-- What statements make of an entry they make of it once and for all. -/
theorem overall_entryChanges_again (said : List Statement) (home : Option Text) {key : Text}
    {entry : Entry} (named : entry.key = key) :
    Roster.overall (entryChanges said home) key
        (Roster.overall (entryChanges said home) key entry) =
      Roster.overall (entryChanges said home) key entry := by
  obtain ⟨value, comment, sets⟩ := overall_entryChanges said home key
  rw [sets entry named]
  have again := sets ⟨key, value.getD entry.value, comment.getD entry.comment⟩ rfl
  rw [again]
  cases value <;> cases comment <;> rfl

/-- Changes of entries that are made find nothing to do when they are made again. -/
theorem settled_entryChanges (said : List Statement) (home : Option Text) (entries : List Entry) :
    Roster.Settled Entry.key (entryChanges said home)
      (Roster.upsertAll Entry.key Entry.new (entryChanges said home) entries) := by
  refine (faithful_entryChanges said home).settled_upsertAll fun key => ?_
  refine overall_entryChanges_again said home ?_
  cases found : Roster.get? Entry.key key entries with
  | none => rfl
  | some entry => exact (Roster.of_get?_eq_some _ _ _ found).2

/-- What statements make of a section they make of it once and for all, if its keys are distinct. -/
theorem overall_sectionChanges_again (said : List Statement) {home : Option Text} {sect : Section}
    (named : sect.name = home) (distinct : (sect.entries.map Entry.key).Nodup) :
    Roster.overall (sectionChanges said) home (Roster.overall (sectionChanges said) home sect) =
      Roster.overall (sectionChanges said) home sect := by
  have faithful := faithful_entryChanges said home
  have again := (settled_entryChanges said home sect.entries).upsertAll_eq faithful
    (faithful.nodup_names distinct)
  have twice := @overall_sectionChanges said home
    ⟨home, (last (Statement.givenComment? home) said).or sect.comment,
      Roster.upsertAll Entry.key Entry.new (entryChanges said home) sect.entries⟩ rfl
  rw [overall_sectionChanges said named, twice, again, ← Option.or_assoc, Option.or_self]

namespace Document

/-- The document with what statements say put into their sections, also what is at the top. -/
def keepAll (document : Document) (said : List Statement) : Document :=
  ⟨Roster.upsertAll Section.name (fun name => Section.new name none) (sectionChanges said)
    document.sections⟩

/-- What statements say finds nothing to do in a document that has it. -/
theorem settled_keepAll {document : Document} (sound : document.Sound) (said : List Statement) :
    Roster.Settled Section.name (sectionChanges said) (document.keepAll said).sections := by
  refine (faithful_sectionChanges said).settled_upsertAll fun home => ?_
  cases found : Roster.get? Section.name home document.sections with
  | none => exact overall_sectionChanges_again said rfl List.nodup_nil
  | some sect =>
    obtain ⟨member, named⟩ := Roster.of_get?_eq_some _ _ _ found
    exact overall_sectionChanges_again said named (sound.sections sect member).distinct

/-- What statements say is put into a document once and for all. -/
theorem keepAll_keepAll {document : Document} (sound : document.Sound) (said : List Statement) :
    (document.keepAll said).keepAll said = document.keepAll said := by
  have faithful := faithful_sectionChanges said
  exact congrArg Document.mk ((settled_keepAll sound said).upsertAll_eq faithful
    (faithful.nodup_names sound.distinct))

end Document

end IniKeeper
