import IniKeeper.Backup
import IniKeeper.Proofs.Files

/-!
# What stands on a shelf

The backups on a shelf are what its folder lists under the extension of backups, the newest first.
Sorting keeps the order of what it does not have to move, so a backup that is newer than all others
comes to stand in front of them, and backups that are removed leave the others in their order. The
name that is made for an instant is a proper name, and the id that is read from it is the stamp.
-/

namespace IniKeeper

/-! ### Sorting -/

namespace Sorting

variable {α : Type} {before : α → α → Bool}

/-- What is sorted falls apart where another element goes: what comes before it and what may come
behind it. -/
theorem mergeSort_cons_eq
    (trans : ∀ a b c, before a b = true → before b c = true → before a c = true)
    (total : ∀ a b, (before a b || before b a) = true) (a : α) (items : List α) :
    (items.mergeSort before).filter (!before a ·) ++ (items.mergeSort before).filter (before a ·) =
        items.mergeSort before ∧
      (a :: items).mergeSort before =
        (items.mergeSort before).filter (!before a ·) ++
          a :: (items.mergeSort before).filter (before a ·) := by
  obtain ⟨front, rest, sorted, old, earlier⟩ := List.mergeSort_cons trans total a items
  have ordered := List.pairwise_mergeSort trans total (a :: items)
  rw [sorted, List.pairwise_append, List.pairwise_cons] at ordered
  obtain ⟨-, ⟨later, -⟩, -⟩ := ordered
  have first : (front ++ rest).filter (!before a ·) = front := by
    have none : rest.filter (!before a ·) = [] :=
      List.filter_eq_nil_iff.mpr fun b member => by simp [later b member]
    rw [List.filter_append, List.filter_eq_self.mpr earlier, none, List.append_nil]
  have second : (front ++ rest).filter (before a ·) = rest := by
    have none : front.filter (before a ·) = [] :=
      List.filter_eq_nil_iff.mpr fun b member => by simpa using earlier b member
    rw [List.filter_append, List.filter_eq_self.mpr later, none, List.nil_append]
  rw [old, first, second]
  exact ⟨rfl, sorted⟩

/-- An element that comes strictly before all others is first, wherever it stood. -/
theorem mergeSort_concat_first
    (trans : ∀ a b c, before a b = true → before b c = true → before a c = true)
    (total : ∀ a b, (before a b || before b a) = true) {a : α} {items : List α}
    (first : ∀ b ∈ items, before b a = false) :
    (items ++ [a]).mergeSort before = a :: items.mergeSort before := by
  -- What stands in front of the list comes behind `a` once it is sorted, so `a` moves past it.
  induction items with
  | nil => simp
  | cons b rest ih =>
    have later : before b a = false := first b List.mem_cons_self
    have step := ih fun c member => first c (List.mem_cons_of_mem b member)
    rw [List.cons_append, (mergeSort_cons_eq trans total b (rest ++ [a])).2,
      (mergeSort_cons_eq trans total b rest).2, step]
    simp [later]

/-- What is picked from a list is sorted as in the list. -/
theorem mergeSort_filter
    (trans : ∀ a b c, before a b = true → before b c = true → before a c = true)
    (total : ∀ a b, (before a b || before b a) = true) (wanted : α → Bool) (items : List α) :
    (items.filter wanted).mergeSort before = (items.mergeSort before).filter wanted := by
  induction items with
  | nil => simp
  | cons a rest ih =>
    obtain ⟨whole, sorted⟩ := mergeSort_cons_eq trans total a rest
    rw [sorted, List.filter_append]
    cases wants : wanted a with
    | true =>
      rw [List.filter_cons_of_pos wants, List.filter_cons_of_pos wants,
        (mergeSort_cons_eq trans total a (rest.filter wanted)).2, ih]
      simp only [List.filter_filter, Bool.and_comm]
    | false =>
      have unwanted : ¬ wanted a = true := by simp [wants]
      rw [List.filter_cons_of_neg unwanted, List.filter_cons_of_neg unwanted, ih,
        ← List.filter_append, whole]

end Sorting

/-! ### Names of backups -/

namespace Instant

/-- A field of a stamp has some characters. -/
theorem field_ne_nil (width n : Nat) : field width n ≠ [] := by
  simp [field, Nat.toDigits_ne_nil]

/-- The characters of a field of a stamp are digits. -/
theorem isDigit_of_mem_field {width n : Nat} {c : Char} (member : c ∈ field width n) :
    c.isDigit = true := by
  rcases List.mem_append.mp member with filled | digit
  · rw [List.eq_of_mem_replicate filled]
    rfl
  · exact Nat.isDigit_of_mem_toDigits (by decide) (by decide) digit

/-- A stamp consists of digits, hyphens and low lines. -/
theorem of_mem_stamp {instant : Instant} {c : Char} (member : c ∈ instant.stamp) :
    c.isDigit = true ∨ c = '-' ∨ c = '_' := by
  have digits : ∀ width n, c ∈ field width n → c.isDigit = true := fun _ _ => isDigit_of_mem_field
  unfold stamp dateText timeText at member
  simp only [List.mem_append, List.mem_cons] at member
  grind

/-- A stamp ends in a digit. -/
theorem exists_stamp_eq (instant : Instant) :
    ∃ front digit, instant.stamp = front ++ [digit] ∧ digit.isDigit = true := by
  obtain ⟨front, digit, last⟩ : ∃ front digit,
      field 9 (instant.nanos % perSecond) = front ++ [digit] :=
    ⟨_, _, (List.dropLast_concat_getLast (field_ne_nil 9 _)).symm⟩
  have member : digit ∈ field 9 (instant.nanos % perSecond) := by simp [last]
  refine ⟨instant.dateText ++ '_' :: instant.timeText ++ '_' :: front, digit, ?_,
    isDigit_of_mem_field member⟩
  rw [stamp, last]
  simp

end Instant

namespace Backup

/-- What a folder holds under a name is a backup if the name has the extension. -/
theorem ofNode?_eq_some_iff {folder name : Text} {node : Store.Node} {backup : Backup} :
    ofNode? folder name node = some backup ↔
      Store.Path.extension? name = some ['b', 'a', 'k'] ∧
        backup = ⟨dropExtension name, Store.Path.under folder name, timestampOf name, name,
          sizeOf node⟩ := by
  unfold ofNode?
  by_cases extended : Store.Path.extension? name = some ['b', 'a', 'k']
  · simp [extended, eq_comm]
  · simp [extended]

/-- A character of a stamp is neither a dot nor a slash. -/
theorem not_mem_stamp {instant : Instant} {c : Char} (mark : c = '.' ∨ c = '/') :
    c ∉ instant.stamp := by
  intro member
  rcases Instant.of_mem_stamp member with digit | rfl | rfl
  · rcases mark with rfl | rfl <;> simp [Char.isDigit] at digit
  · simp at mark
  · simp at mark

/-- The name of a backup made at an instant has the extension of backups. -/
theorem extension?_nameAt (instant : Instant) :
    Store.Path.extension? (nameAt instant) = some ['b', 'a', 'k'] := by
  obtain ⟨front, digit, ended, -⟩ := instant.exists_stamp_eq
  have some : instant.stamp.isEmpty = false := by
    rw [ended]
    simp
  have first : '.' ∉ instant.stamp := not_mem_stamp (.inl rfl)
  have pieces : (nameAt instant).splitOn '.' = [instant.stamp, ['b', 'a', 'k']] := by
    rw [nameAt, extension, List.splitOn_append_cons_self_of_not_mem first]
    rfl
  simp [Store.Path.extension?, pieces, some]

/-- The id of a backup made at an instant is its stamp. -/
theorem dropExtension_nameAt (instant : Instant) :
    dropExtension (nameAt instant) = instant.stamp := by
  obtain ⟨front, digit, ended, isDigit⟩ := instant.exists_stamp_eq
  have backwards : (nameAt instant).reverse =
      'k' :: 'a' :: 'b' :: '.' :: digit :: front.reverse := by
    rw [nameAt, ended]
    simp [extension]
  have other : digit ≠ 'k' := by
    rintro rfl
    simp [Char.isDigit] at isDigit
  have stays : dropBackwards (digit :: front.reverse) = digit :: front.reverse := by
    unfold dropBackwards
    split
    · rename_i same
      exact absurd (List.cons.inj same).1 other
    · rfl
  rw [dropExtension, backwards, dropBackwards, stays, ended]
  simp

/-- The name of a backup made at an instant is a proper name. -/
theorem proper_nameAt (instant : Instant) : Store.Path.Proper (nameAt instant) := by
  obtain ⟨front, digit, ended, -⟩ := instant.exists_stamp_eq
  have long : 4 < (nameAt instant).length := by
    rw [nameAt, ended]
    simp [extension]
  refine ⟨?_, ?_, ?_⟩
  · have filled : (nameAt instant) ≠ [] := by
      intro empty
      rw [empty] at long
      simp at long
    have other : nameAt instant ≠ Store.Path.here := by
      intro here
      rw [here] at long
      simp [Store.Path.here] at long
    simp [Store.Path.isStep, filled, other]
  · intro above
    rw [above] at long
    simp [Store.Path.above] at long
  · rw [nameAt, List.mem_append, not_or]
    exact ⟨not_mem_stamp (.inr rfl), by decide⟩

/-- The backup made at an instant. -/
def madeAt (folder : Text) (instant : Instant) (content : ByteArray) : Backup :=
  ⟨instant.stamp, Store.Path.under folder (nameAt instant), timestampOf (nameAt instant),
    nameAt instant, content.size⟩

/-- A file under the name made for an instant is the backup made then. -/
theorem ofNode?_nameAt (folder : Text) (instant : Instant) (content : ByteArray) :
    ofNode? folder (nameAt instant) (.file content) = some (madeAt folder instant content) := by
  rw [ofNode?_eq_some_iff, dropExtension_nameAt]
  exact ⟨extension?_nameAt instant, rfl⟩

/-- Whether a backup is not older than another, going by their ids. -/
def notOlder (backup other : Backup) : Bool := !decide (backup.id < other.id)

/-- Backups that are not older than each other in turn are so altogether. -/
theorem notOlder_trans (first second third : Backup) (newer : notOlder first second = true)
    (again : notOlder second third = true) : notOlder first third = true := by
  simp only [notOlder, Bool.not_eq_true', decide_eq_false_iff_not, List.not_lt] at newer again ⊢
  exact List.le_trans again newer

/-- Of two backups one is not older than the other. -/
theorem notOlder_total (first second : Backup) :
    (notOlder first second || notOlder second first) = true := by
  by_cases older : first.id < second.id
  · simp [notOlder, List.lt_asymm older]
  · simp [notOlder, older]

end Backup

/-! ### What a shelf lists -/

namespace Shelf

open Store (Tree Place Node)

variable {shelf : Shelf} {tree other : Tree} {home : Place} {kept : List Backup} {backup : Backup}

/-- Whether the folder of a shelf is at a place. -/
structure StandsAt (shelf : Shelf) (tree : Tree) (home : Place) : Prop where
  /-- The path of the folder leads there. -/
  resolve : tree.resolve shelf.folder = .ok home
  /-- It is a folder. -/
  found : tree.find shelf.folder = .ok .folder

/-- A shelf stands where it stood in a tree with the same folders. -/
theorem StandsAt.of_sameFolders (stands : shelf.StandsAt tree home)
    (same : Tree.SameFolders tree other) : shelf.StandsAt other home :=
  ⟨same.resolve_eq_ok_iff.mpr stands.resolve, same.find_folder stands.found⟩

/-- The backups among what a folder lists. -/
def held (shelf : Shelf) (entries : List (Text × Node)) : List Backup :=
  entries.filterMap fun entry => Backup.ofNode? shelf.folder entry.1 entry.2

/-- The backups on a shelf are those that its folder lists, sorted. -/
theorem StandsAt.backups_eq (stands : shelf.StandsAt tree home) :
    shelf.backups tree =
      .ok ((shelf.held (tree.children home)).mergeSort Backup.notOlder) := by
  have has : tree.has shelf.folder = true := by
    rw [Tree.has, stands.found]
  rw [backups, if_pos has, Tree.list_eq stands.resolve stands.found]
  rfl

/-- What is on a shelf is what sorting the backups in its folder gives. -/
theorem StandsAt.kept_eq (stands : shelf.StandsAt tree home)
    (listed : shelf.backups tree = .ok kept) :
    kept = (shelf.held (tree.children home)).mergeSort Backup.notOlder :=
  Except.ok.inj (listed.symm.trans stands.backups_eq)

/-- A shelf with a backup stands somewhere. -/
theorem exists_standsAt (listed : shelf.backups tree = .ok kept) (member : backup ∈ kept) :
    ∃ home, shelf.StandsAt tree home := by
  unfold backups at listed
  split at listed
  · obtain ⟨entries, folder, -⟩ := Attempt.bind_eq_ok_iff.mp listed
    obtain ⟨node, found, lists⟩ := Attempt.bind_eq_ok_iff.mp folder
    cases node with
    | file content => simp at lists
    | folder =>
      obtain ⟨home, leads, -⟩ := Attempt.bind_eq_ok_iff.mp lists
      exact ⟨home, leads, found⟩
  · obtain rfl := Except.ok.inj listed
    exact absurd member List.not_mem_nil

/-- A backup among what a folder lists is made of something there. -/
theorem mem_held_iff {entries : List (Text × Node)} :
    backup ∈ shelf.held entries ↔
      ∃ entry ∈ entries, Backup.ofNode? shelf.folder entry.1 entry.2 = some backup := by
  rw [held, List.mem_filterMap]

/-- A backup on a shelf has its name, path and id from something that the folder holds. -/
theorem StandsAt.of_mem (stands : shelf.StandsAt tree home)
    (listed : shelf.backups tree = .ok kept) (member : backup ∈ kept) :
    ∃ node, (backup.filename, node) ∈ tree.children home ∧
      Backup.ofNode? shelf.folder backup.filename node = some backup := by
  obtain rfl := stands.kept_eq listed
  obtain ⟨⟨name, node⟩, inside, made⟩ := mem_held_iff.mp (List.mem_mergeSort.mp member)
  obtain ⟨-, rfl⟩ := Backup.ofNode?_eq_some_iff.mp made
  exact ⟨node, inside, made⟩

/-- The place where a backup is kept. -/
def placeOf (home : Place) (backup : Backup) : Place := home ++ [backup.filename]

/-- Backups of different names are kept at different places. -/
theorem placeOf_eq_iff {backup another : Backup} :
    placeOf home backup = placeOf home another ↔ backup.filename = another.filename := by
  simp [placeOf]

/-- A backup is kept at another place than what is not in the folder of the shelf. -/
theorem placeOf_ne {place : Place} (elsewhere : place.dropLast ≠ home) (backup : Backup) :
    placeOf home backup ≠ place := by
  intro same
  rw [← same, placeOf, List.dropLast_concat] at elsewhere
  exact elsewhere rfl

/-- A backup that can be read is the file at its place. -/
theorem StandsAt.leadsTo (stands : shelf.StandsAt tree home) (sound : tree.Sound)
    (listed : shelf.backups tree = .ok kept) (member : backup ∈ kept) {content : ByteArray}
    (readable : tree.read backup.path = .ok content) :
    tree.LeadsTo backup.path (placeOf home backup) content := by
  obtain ⟨node, inside, made⟩ := stands.of_mem listed member
  have path : backup.path = Store.Path.under shelf.folder backup.filename := by
    obtain ⟨-, same⟩ := Backup.ofNode?_eq_some_iff.mp made
    rw [same]
  have proper : Store.Path.Proper backup.filename := by
    have there := (sound.node?_eq_some_iff (by simp)).mp (sound.mem_children_iff.mp inside)
    exact sound.proper _ (List.mem_map_of_mem there) _ (by simp)
  obtain ⟨place, leads⟩ := Tree.read_eq_ok_iff.mp readable
  have resolved := leads.resolve
  rw [path] at resolved
  obtain rfl := Tree.resolve_under proper stands.resolve resolved
  exact leads

/-- The backups on a shelf have different names. -/
theorem StandsAt.nodup_filenames (stands : shelf.StandsAt tree home) (sound : tree.Sound)
    (listed : shelf.backups tree = .ok kept) : (kept.map Backup.filename).Nodup := by
  obtain rfl := stands.kept_eq listed
  have sorted := List.mergeSort_perm (shelf.held (tree.children home)) Backup.notOlder
  rw [(sorted.map Backup.filename).nodup_iff, List.Nodup, List.pairwise_map]
  refine List.pairwise_filterMap.mpr
    ((List.pairwise_map.mp (sound.nodup_children home)).imp ?_)
  intro one two different first made second again same
  obtain ⟨-, rfl⟩ := Backup.ofNode?_eq_some_iff.mp made
  obtain ⟨-, rfl⟩ := Backup.ofNode?_eq_some_iff.mp again
  exact different same

/-- A backup that is newer than all others comes first. -/
theorem StandsAt.backups_set_new (stands : shelf.StandsAt tree home)
    (listed : shelf.backups tree = .ok kept) {instant : Instant}
    (fresh : tree.node? (home ++ [Backup.nameAt instant]) = none)
    (later : ∀ older ∈ kept, older.id < instant.stamp) (content : ByteArray) :
    shelf.backups (tree.set (home ++ [Backup.nameAt instant]) (.file content)) =
      .ok (Backup.madeAt shelf.folder instant content :: kept) := by
  obtain rfl := stands.kept_eq listed
  have plain : tree.node? (home ++ [Backup.nameAt instant]) ≠ some .folder := by simp [fresh]
  have still := stands.of_sameFolders (Tree.sameFolders_set plain content)
  have added : shelf.held (tree.children home ++ [(Backup.nameAt instant, .file content)]) =
      shelf.held (tree.children home) ++ [Backup.madeAt shelf.folder instant content] := by
    have made := Backup.ofNode?_nameAt shelf.folder instant content
    rw [held, List.filterMap_append, ← held]
    simp [made]
  have first : ∀ older ∈ shelf.held (tree.children home),
      Backup.notOlder older (Backup.madeAt shelf.folder instant content) = false := by
    intro older member
    have order := later older (List.mem_mergeSort.mpr member)
    rw [Backup.notOlder, Bool.not_eq_false']
    exact decide_eq_true order
  rw [still.backups_eq, Tree.children_set_new fresh, added,
    Sorting.mergeSort_concat_first Backup.notOlder_trans Backup.notOlder_total first]

/-- Backups that are taken are no longer on the shelf. -/
theorem StandsAt.backups_without (stands : shelf.StandsAt tree home)
    (listed : shelf.backups tree = .ok kept) {places : List Place}
    (plain : ∀ place ∈ places, tree.node? place ≠ some .folder) :
    shelf.backups (tree.without places) =
      .ok (kept.filter fun backup => placeOf home backup ∉ places) := by
  obtain rfl := stands.kept_eq listed
  have still := stands.of_sameFolders (Tree.sameFolders_without plain)
  have left : shelf.held ((tree.children home).filter fun entry => home ++ [entry.1] ∉ places) =
      (shelf.held (tree.children home)).filter fun backup => placeOf home backup ∉ places := by
    rw [held, held, List.filter_filterMap, List.filterMap_filter]
    congr 1
    funext entry
    cases made : Backup.ofNode? shelf.folder entry.1 entry.2 with
    | none => simp
    | some backup =>
      obtain ⟨-, rfl⟩ := Backup.ofNode?_eq_some_iff.mp made
      by_cases taken : home ++ [entry.1] ∈ places <;> simp [taken, placeOf, Option.filter]
  rw [still.backups_eq, Tree.children_without, left,
    Sorting.mergeSort_filter Backup.notOlder_trans Backup.notOlder_total]

/-- A file that is put elsewhere leaves the backups on a shelf. -/
theorem StandsAt.backups_set_elsewhere (stands : shelf.StandsAt tree home)
    (listed : shelf.backups tree = .ok kept) {place : Place}
    (plain : tree.node? place ≠ some .folder) (elsewhere : place.dropLast ≠ home)
    (content : ByteArray) : shelf.backups (tree.set place (.file content)) = .ok kept := by
  have still := stands.of_sameFolders (Tree.sameFolders_set plain content)
  rw [still.backups_eq, Tree.children_set_elsewhere elsewhere, ← stands.backups_eq, listed]

end Shelf

end IniKeeper
