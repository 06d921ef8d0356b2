import IniKeeper.Proofs.Recovery
import IniKeeper.Proofs.Stamps

/-!
# Which backup an id finds

A backup is looked up by its id or by a part of its name. The search takes the newest backup that
goes by the text in either way. So it gives what the text identifies, the backup of that id or else
the only one with that part in its name, exactly where no newer name has the id as a part and no two
names have the part. Names that were made for instants are never parts of each other.
-/

namespace IniKeeper

/-- A text has a part exactly if the part stands in it as a block. -/
theorem Text.hasPart_iff {part text : Text} : hasPart part text = true ↔ part <:+: text := by
  induction text with
  | nil => simp [hasPart]
  | cons c rest ih =>
    rw [hasPart, Bool.or_eq_true, List.isPrefixOf_iff_prefix, ih, List.infix_cons_iff]

namespace Backup

variable {kept : List Backup} {id : Text} {backup : Backup}

/-- A backup goes by its id and by each part of its name. -/
theorem goesBy_iff : goesBy id backup = true ↔ backup.id = id ∨ id <:+: backup.filename := by
  rw [goesBy, Bool.or_eq_true, beq_iff_eq, Text.hasPart_iff]

/-- Whether an answer is what a text identifies among backups: the backup of which it is the id, or
else the only backup of which it is a part of the name. -/
structure Identifies (kept : List Backup) (id : Text) (answer : Option Backup) : Prop where
  /-- The backup of the id is the answer. -/
  exact : ∀ backup ∈ kept, backup.id = id → answer = some backup
  /-- Where there is none, the answer is the only backup of that part, if it is the only one. -/
  part : (∀ backup ∈ kept, backup.id ≠ id) → ∀ backup, answer = some backup ↔
    backup ∈ kept ∧ id <:+: backup.filename ∧
      ∀ other ∈ kept, id <:+: other.filename → other = backup

/-- Whether a text leaves no doubt among backups. -/
structure Unambiguous (kept : List Backup) (id : Text) : Prop where
  /-- No name that is newer than the backup of the id has the id as a part. -/
  exact : ∀ backup ∈ kept, backup.id = id → ∀ newer ∈ kept, id < newer.id →
    ¬ id <:+: newer.filename
  /-- Where there is no backup of the id, at most one name has it as a part. -/
  part : (∀ backup ∈ kept, backup.id ≠ id) → ∀ one ∈ kept, ∀ other ∈ kept,
    id <:+: one.filename → id <:+: other.filename → one = other

/-- Whether backups stand the newest first. -/
def Descending (kept : List Backup) : Prop := kept.Pairwise fun newer older => older.id < newer.id

namespace Descending

/-- The first of some backups is the newest. -/
theorem find?_eq_some_iff (descending : Descending kept) {wanted : Backup → Bool} :
    kept.find? wanted = some backup ↔
      backup ∈ kept ∧ wanted backup = true ∧
        ∀ newer ∈ kept, backup.id < newer.id → wanted newer = false := by
  rw [List.find?_eq_some_iff_append]
  constructor
  · rintro ⟨wants, front, rest, rfl, passed⟩
    refine ⟨by simp, wants, fun newer member later => ?_⟩
    rw [Descending, List.pairwise_append, List.pairwise_cons] at descending
    obtain ⟨-, ⟨older, -⟩, -⟩ := descending
    rcases List.mem_append.mp member with inFront | behind
    · simpa using passed newer inFront
    · rcases List.mem_cons.mp behind with rfl | inRest
      · exact absurd later (List.lt_irrefl _)
      · exact absurd later (List.lt_asymm (older newer inRest))
  · rintro ⟨member, wants, unwanted⟩
    obtain ⟨front, rest, rfl⟩ := List.append_of_mem member
    refine ⟨wants, front, rest, rfl, fun newer inFront => ?_⟩
    rw [Descending, List.pairwise_append] at descending
    obtain ⟨-, -, apart⟩ := descending
    have later := apart newer inFront backup List.mem_cons_self
    simp [unwanted newer (List.mem_append_left _ inFront) later]

/-- Among backups that descend, the search gives the newest that goes by a text. -/
theorem find?_goesBy_iff (descending : Descending kept) :
    kept.find? (goesBy id) = some backup ↔
      backup ∈ kept ∧ (backup.id = id ∨ id <:+: backup.filename) ∧
        ∀ newer ∈ kept, backup.id < newer.id → newer.id ≠ id ∧ ¬ id <:+: newer.filename := by
  have other (newer : Backup) :
      goesBy id newer = false ↔ newer.id ≠ id ∧ ¬ id <:+: newer.filename := by
    rw [← Bool.not_eq_true, goesBy_iff, not_or]
  simp only [descending.find?_eq_some_iff, goesBy_iff, other]

/-- The backup of an id is found by it exactly where no newer name has the id as a part. -/
theorem find?_eq_some_of_id (descending : Descending kept) (member : backup ∈ kept)
    (named : backup.id = id) :
    kept.find? (goesBy id) = some backup ↔
      ∀ newer ∈ kept, id < newer.id → ¬ id <:+: newer.filename := by
  rw [descending.find?_goesBy_iff, named]
  constructor
  · rintro ⟨-, -, passed⟩ newer among later
    exact (passed newer among later).2
  · refine fun clear => ⟨member, .inl rfl, fun newer among later => ⟨?_, clear newer among later⟩⟩
    rintro rfl
    exact List.lt_irrefl _ later

/-- Where no backup has the text as its id, the search gives the only backup of the part exactly
where at most one name has it. -/
theorem find?_part_iff (descending : Descending kept) (none : ∀ backup ∈ kept, backup.id ≠ id) :
    (∀ backup, kept.find? (goesBy id) = some backup ↔
        backup ∈ kept ∧ id <:+: backup.filename ∧
          ∀ other ∈ kept, id <:+: other.filename → other = backup) ↔
      ∀ one ∈ kept, ∀ other ∈ kept, id <:+: one.filename → id <:+: other.filename →
        one = other := by
  constructor
  · intro identified one among other member first second
    have some : (kept.find? (goesBy id)).isSome = true := by
      rw [List.find?_isSome]
      exact ⟨one, among, goesBy_iff.mpr (.inr first)⟩
    obtain ⟨answer, found⟩ := Option.isSome_iff_exists.mp some
    obtain ⟨-, -, only⟩ := (identified answer).mp found
    rw [only one among first, only other member second]
  · intro single backup
    rw [descending.find?_goesBy_iff]
    constructor
    · rintro ⟨member, named | part, -⟩
      · exact absurd named (none backup member)
      · exact ⟨member, part, fun other among also => single other among backup member also part⟩
    · rintro ⟨member, part, only⟩
      refine ⟨member, .inr part, fun newer among later => ⟨none newer among, fun also => ?_⟩⟩
      rw [only newer among also] at later
      exact List.lt_irrefl _ later

/-- The search gives what a text identifies exactly where the text leaves no doubt. -/
theorem identifies_iff (descending : Descending kept) (id : Text) :
    Identifies kept id (kept.find? (goesBy id)) ↔ Unambiguous kept id := by
  constructor
  · intro identifies
    exact ⟨fun backup member named =>
        (descending.find?_eq_some_of_id member named).mp (identifies.exact backup member named),
      fun none => (descending.find?_part_iff none).mp (identifies.part none)⟩
  · intro clear
    exact ⟨fun backup member named =>
        (descending.find?_eq_some_of_id member named).mpr (clear.exact backup member named),
      fun none => (descending.find?_part_iff none).mpr (clear.part none)⟩

end Descending

/-- The stamp of an instant is a part of the name made for another only where the stamps are the
same. -/
theorem stamp_eq_of_infix_nameAt {instant other : Instant} (within : instant.InYears)
    (otherWithin : other.InYears) (part : instant.stamp <:+: nameAt other) :
    instant.stamp = other.stamp := by
  obtain ⟨front, rest, whole⟩ := part
  have long := within.length_stamp
  have otherLong := otherWithin.length_stamp
  -- The name ends in the extension, and a stamp has no dot, so the stamp cannot reach into it.
  rcases List.append_eq_append_iff.mp whole with ⟨between, left, -⟩ | ⟨between, left, ending⟩
  · have lengths := congrArg List.length left
    simp only [List.length_append, long, otherLong] at lengths
    have nothing : front = [] := List.eq_nil_of_length_eq_zero (by omega)
    have behind : between = [] := List.eq_nil_of_length_eq_zero (by omega)
    simpa [nothing, behind] using left.symm
  · have lengths := congrArg List.length left
    simp only [List.length_append, long, otherLong] at lengths
    cases between with
    | nil =>
      have nothing : front = [] := List.eq_nil_of_length_eq_zero (by simpa using lengths)
      simpa [nothing] using left
    | cons c more =>
      obtain ⟨rfl, -⟩ := List.cons.inj ending
      have short := congrArg List.length ending
      simp only [extension, List.length_append, List.length_cons, List.length_nil] at short
      have ends : '.' :: more <:+ front ++ instant.stamp := by
        rw [left]
        exact List.suffix_append _ _
      have inside : '.' :: more <:+ instant.stamp := by
        refine List.suffix_of_suffix_length_le ends (List.suffix_append _ _) ?_
        rw [List.length_cons, long]
        omega
      exact absurd (inside.subset List.mem_cons_self) (not_mem_stamp (.inl rfl))

end Backup

namespace Shelf

open Backup (Descending Identifies Unambiguous)

variable {shelf : Shelf} {workspace : Workspace} {tree : Store.Tree} {kept : List Backup}

/-- A shelf lists backups of different ids the newest first. -/
theorem descending_of_backups (listed : shelf.backups tree = .ok kept)
    (distinct : (kept.map Backup.id).Nodup) : Descending kept := by
  have sorted : kept.Pairwise fun newer older => ¬ newer.id < older.id := by
    cases kept with
    | nil => exact .nil
    | cons backup rest =>
      obtain ⟨home, stands⟩ := exists_standsAt listed List.mem_cons_self
      rw [stands.kept_eq listed]
      have ordered := List.pairwise_mergeSort Backup.notOlder_trans Backup.notOlder_total
        (shelf.held (tree.children home))
      exact ordered.imp fun before => by simpa [Backup.notOlder] using before
  refine (sorted.and (List.pairwise_map.mp distinct)).imp ?_
  rintro newer older ⟨notOlder, different⟩
  rcases List.le_iff_lt_or_eq.mp (List.not_lt.mp notOlder) with less | same
  · exact less
  · exact absurd same.symm different

/-- A lookup gives the newest backup that has the text as its id or as a part of its name. It is
what the text identifies exactly where the text leaves no doubt, and the id of a listed backup finds
that backup exactly where no newer name has the id as a part. -/
theorem find_identifies_iff (listed : shelf.backups workspace.tree = .ok kept)
    (distinct : (kept.map Backup.id).Nodup) (id : Text) :
    ∃ answer, (shelf.find id).run workspace = (.ok answer, workspace) ∧
      (∀ backup, answer = some backup ↔
        backup ∈ kept ∧ (backup.id = id ∨ id <:+: backup.filename) ∧
          ∀ newer ∈ kept, backup.id < newer.id → newer.id ≠ id ∧ ¬ id <:+: newer.filename) ∧
      (Identifies kept id answer ↔ Unambiguous kept id) ∧
      ∀ backup ∈ kept, backup.id = id →
        (answer = some backup ↔ ∀ newer ∈ kept, id < newer.id → ¬ id <:+: newer.filename) := by
  have descending := descending_of_backups listed distinct
  exact ⟨_, run_find listed id, fun _ => descending.find?_goesBy_iff,
    descending.identifies_iff id, fun _ => descending.find?_eq_some_of_id⟩

/-- The copy of a backup that a user made beside it. -/
def copiedBackup : Backup :=
  ⟨"2019-01-01_000000_000000001-copy".toList,
    "backups/2019-01-01_000000_000000001-copy.bak".toList, "2019-01-01_000000".toList,
    "2019-01-01_000000_000000001-copy.bak".toList, 4⟩

/-- A file with one backup and a copy of this. -/
def backedUpAndCopied : Workspace :=
  { backedUpOnce with
    tree := ⟨[], (["backups".toList, copiedBackup.filename], .file "copy".toUTF8) ::
      backedUpOnce.tree.nodes⟩ }

/-- The backup and its copy are listed, the copy first. -/
theorem listed_backedUpAndCopied :
    Shelf.backups ⟨"backups".toList, 20⟩ backedUpAndCopied.tree =
      .ok [copiedBackup, onlyBackup] := by
  let shelf : Shelf := ⟨"backups".toList, 20⟩
  have stands : shelf.StandsAt backedUpAndCopied.tree ["backups".toList] := ⟨rfl, rfl⟩
  have held : shelf.held (backedUpAndCopied.tree.children ["backups".toList]) =
      [copiedBackup, onlyBackup] := by decide +kernel
  rw [stands.backups_eq, held, List.mergeSort_of_pairwise (by decide +kernel)]

/-- A part of one name only finds its backup. -/
theorem find_identifies_copy :
    let shelf : Shelf := ⟨"backups".toList, 20⟩
    let kept := [copiedBackup, onlyBackup]
    shelf.backups backedUpAndCopied.tree = .ok kept ∧ (kept.map Backup.id).Nodup ∧
      ∃ answer, (shelf.find "copy".toList).run backedUpAndCopied =
          (.ok answer, backedUpAndCopied) ∧
        Identifies kept "copy".toList answer := by
  intro shelf kept
  have listed : shelf.backups backedUpAndCopied.tree = .ok kept := listed_backedUpAndCopied
  have distinct : (kept.map Backup.id).Nodup := by decide +kernel
  obtain ⟨answer, found, -, identifies, -⟩ := find_identifies_iff listed distinct "copy".toList
  exact ⟨listed, distinct, answer, found,
    identifies.mpr ⟨by decide +kernel, fun _ => by decide +kernel⟩⟩

/-- The id of a backup finds the copy of it, and so does a part of both names, which identifies
nothing. -/
theorem find_shadowed_by_copy :
    let shelf : Shelf := ⟨"backups".toList, 20⟩
    let kept := [copiedBackup, onlyBackup]
    shelf.backups backedUpAndCopied.tree = .ok kept ∧ (kept.map Backup.id).Nodup ∧
      ((shelf.find onlyBackup.id).run backedUpAndCopied =
          (.ok (some copiedBackup), backedUpAndCopied) ∧
        onlyBackup ∈ kept ∧ ¬ Identifies kept onlyBackup.id (some copiedBackup)) ∧
      (shelf.find "2019".toList).run backedUpAndCopied =
          (.ok (some copiedBackup), backedUpAndCopied) ∧
        ¬ Identifies kept "2019".toList (some copiedBackup) := by
  intro shelf kept
  have listed : shelf.backups backedUpAndCopied.tree = .ok kept := listed_backedUpAndCopied
  have member : onlyBackup ∈ kept := by decide +kernel
  refine ⟨listed, by decide +kernel, ⟨?_, member, fun identifies => ?_⟩, ?_, fun identifies => ?_⟩
  · rw [run_find listed]
    rfl
  · have wrong := identifies.exact onlyBackup member rfl
    exact absurd wrong (by decide +kernel)
  · rw [run_find listed]
    rfl
  · obtain ⟨-, -, only⟩ := (identifies.part (by decide +kernel) copiedBackup).mp rfl
    exact absurd (only onlyBackup member (by decide +kernel)) (by decide +kernel)

/-- On a shelf on which every name was made for an instant, the id of each backup finds that
backup. -/
theorem find_of_made (sound : workspace.tree.Sound)
    (listed : shelf.backups workspace.tree = .ok kept)
    (made : ∀ backup ∈ kept, ∃ instant : Instant, instant.InYears ∧
      backup.filename = Backup.nameAt instant) {backup : Backup} (member : backup ∈ kept) :
    (shelf.find backup.id).run workspace = (.ok (some backup), workspace) := by
  obtain ⟨home, stands⟩ := exists_standsAt listed member
  have stamped : ∀ one ∈ kept, ∃ instant : Instant, instant.InYears ∧
      one.filename = Backup.nameAt instant ∧ one.id = instant.stamp := by
    intro one among
    obtain ⟨instant, within, name⟩ := made one among
    obtain ⟨node, -, told⟩ := stands.of_mem listed among
    have id := congrArg Backup.id (Backup.ofNode?_eq_some_iff.mp told).2
    rw [name] at id
    exact ⟨instant, within, name, id.trans (Backup.dropExtension_nameAt instant)⟩
  have distinct : (kept.map Backup.id).Nodup := by
    have names := stands.nodup_filenames sound listed
    rw [List.Nodup, List.pairwise_map] at names ⊢
    refine names.imp_of_mem fun {one other} among also different same => ?_
    obtain ⟨instant, -, name, id⟩ := stamped one among
    obtain ⟨another, -, otherName, otherId⟩ := stamped other also
    have stamps : instant.stamp = another.stamp := id.symm.trans (same.trans otherId)
    exact different (by rw [name, otherName, Backup.nameAt, Backup.nameAt, stamps])
  have descending := descending_of_backups listed distinct
  rw [run_find listed, (descending.find?_eq_some_of_id member rfl).mpr]
  intro newer among later part
  obtain ⟨instant, within, -, id⟩ := stamped backup member
  obtain ⟨another, otherWithin, name, otherId⟩ := stamped newer among
  rw [id, name] at part
  have stamps := Backup.stamp_eq_of_infix_nameAt within otherWithin part
  rw [id, otherId, stamps] at later
  exact List.lt_irrefl _ later

end Shelf

end IniKeeper
