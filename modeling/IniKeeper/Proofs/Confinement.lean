import IniKeeper.Proofs.Jobs
import IniKeeper.Proofs.Saving
import IniKeeper.Proofs.PathTargets

/-!
# What a change of a tree is confined to

Of an operation on a tree it can be said, before it is carried out, at which places files may come,
go or change, and at which places folders may be made. A change that is confined to some places
leaves every other file as it was, leaves every folder, and leaves what any other folder lists; so
paths still lead where they led, and files elsewhere are still read as before.
-/

namespace IniKeeper

namespace Store

namespace Tree

/-- Whether a tree comes from another by changing files at some places and making folders at some
others. -/
structure Confined (files folders : Place → Prop) (before after : Tree) : Prop where
  /-- Relative paths start where they did. -/
  start : after.start = before.start
  /-- A sound tree stays sound. -/
  sound : before.Sound → after.Sound
  /-- Any other place holds a file exactly if it held this file. -/
  file : ∀ place, ¬ files place →
    ∀ content, after.node? place = some (.file content) ↔ before.node? place = some (.file content)
  /-- A folder stays. -/
  folder : ∀ place, before.node? place = some .folder → after.node? place = some .folder
  /-- A folder lists the same unless one of the places lies directly in it. -/
  children : ∀ home, (∀ place, files place ∨ folders place → place.dropLast ≠ home) →
    after.children home = before.children home

/-- No place at all. -/
def nowhere : Place → Prop := fun _ => False

variable {files folders moreFiles moreFolders : Place → Prop} {before between after : Tree}
  {path : Text} {place : Place} {content : ByteArray}

namespace Confined

/-- No change is confined to any places. -/
theorem refl (tree : Tree) : Confined files folders tree tree where
  start := rfl
  sound := id
  file := fun _ _ _ => Iff.rfl
  folder := fun _ => id
  children := fun _ _ => rfl

/-- Two changes in a row are confined to the places to which both are. -/
theorem trans (first : Confined files folders before between)
    (second : Confined files folders between after) : Confined files folders before after where
  start := second.start.trans first.start
  sound := fun sound => second.sound (first.sound sound)
  file := fun place elsewhere content =>
    (second.file place elsewhere content).trans (first.file place elsewhere content)
  folder := fun place held => second.folder place (first.folder place held)
  children := fun home apart => (second.children home apart).trans (first.children home apart)

/-- A change that is confined to some places is confined to more. -/
theorem mono (confined : Confined files folders before after)
    (within : ∀ place, files place → moreFiles place)
    (below : ∀ place, folders place → moreFolders place) :
    Confined moreFiles moreFolders before after where
  start := confined.start
  sound := confined.sound
  file := fun place elsewhere => confined.file place fun inside => elsewhere (within place inside)
  folder := confined.folder
  children := fun home apart => confined.children home fun place one =>
    apart place (one.imp (within place) (below place))

/-- Steps that could be walked can still be walked. -/
theorem walk (confined : Confined files folders before after) {home : Place} {steps : List Text}
    (walked : before.walk home steps = .ok place) : after.walk home steps = .ok place := by
  induction steps generalizing home with
  | nil => exact walked
  | cons name rest ih =>
    obtain ⟨looked, further⟩ := walk_cons_eq_ok_iff.mp walked
    obtain ⟨short, held⟩ := look_eq_ok_iff.mp looked
    have still := look_eq_ok_iff.mpr ⟨short, confined.folder home held⟩
    exact walk_cons_eq_ok_iff.mpr ⟨still, ih further⟩

/-- A path leads where it led. -/
theorem resolve (confined : Confined files folders before after)
    (leads : before.resolve path = .ok place) : after.resolve path = .ok place := by
  obtain ⟨plain, walked⟩ := resolve_eq_ok_iff.mp leads
  have origin : after.origin path = before.origin path := by
    rw [Tree.origin, Tree.origin, confined.start]
  exact resolve_eq_ok_iff.mpr ⟨plain, origin ▸ confined.walk walked⟩

/-- A path of a file elsewhere leads to it still. -/
theorem leadsTo (confined : Confined files folders before after)
    (leads : before.LeadsTo path place content) (elsewhere : ¬ files place) :
    after.LeadsTo path place content where
  resolve := confined.resolve leads.resolve
  short := leads.short
  node := (confined.file place elsewhere content).mpr leads.node
  file := leads.file

/-- A folder that was found is still found. -/
theorem find_folder (confined : Confined files folders before after)
    (found : before.find path = .ok .folder) : after.find path = .ok .folder := by
  obtain ⟨place, leads, looked, plain⟩ := find_eq_ok_iff.mp found
  obtain ⟨short, held⟩ := look_eq_ok_iff.mp looked
  have still := look_eq_ok_iff.mpr ⟨short, confined.folder place held⟩
  exact find_eq_ok_iff.mpr ⟨place, confined.resolve leads, still, plain⟩

end Confined

/-! ### Operations -/

/-- A file that is put where no folder is changes only its place. -/
theorem confined_set {tree : Tree} (proper : tree.Sound → ∀ name ∈ place, Path.Proper name)
    (plain : tree.node? place ≠ some .folder) (content : ByteArray) :
    Confined (· = place) nowhere tree (tree.set place (.file content)) where
  start := rfl
  sound := fun sound => sound.set (proper sound) _
  file := fun elsewhere other content => by rw [node?_set_other other]
  folder := fun home held => by
    have other : home ≠ place := by
      rintro rfl
      exact plain held
    rw [node?_set_other other, held]
  children := fun home apart => children_set_elsewhere (apart place (.inl rfl)) _

/-- Writing a file changes only the place that its path aims at. -/
theorem confined_write {tree changed : Tree} (written : tree.write path content = .ok changed) :
    Confined (· = Path.aim tree.start path) nowhere tree changed := by
  obtain ⟨place, takes, rfl⟩ := write_eq_ok_iff.mp written
  rw [Path.aim_of_resolve takes.resolve]
  exact confined_set (fun sound => sound.proper_of_resolve takes.resolve) takes.plain content

/-- A file is copied by putting it at a place where one could be written. -/
theorem exists_of_copy {tree changed : Tree} {target : Text}
    (copied : tree.copy path target = .ok changed) :
    ∃ place content, tree.Takes target place ∧ changed = tree.set place (.file content) := by
  obtain ⟨node, -, rest⟩ := Attempt.bind_eq_ok_iff.mp copied
  cases node with
  | folder => contradiction
  | file content =>
    obtain ⟨emptied, first, rest⟩ := Attempt.bind_eq_ok_iff.mp rest
    obtain ⟨bytes, -, second⟩ := Attempt.bind_eq_ok_iff.mp rest
    obtain ⟨place, takes, rfl⟩ := write_eq_ok_iff.mp first
    obtain ⟨there, again, rfl⟩ := write_eq_ok_iff.mp second
    have leads := (sameFolders_set takes.plain ByteArray.empty).resolve_eq_ok_iff.mpr takes.resolve
    obtain rfl := Except.ok.inj (leads.symm.trans again.resolve)
    exact ⟨place, bytes, takes, set_set tree place _ _⟩

/-- Copying a file changes only the place that the path of the copy aims at. -/
theorem confined_copy {tree changed : Tree} {target : Text}
    (copied : tree.copy path target = .ok changed) :
    Confined (· = Path.aim tree.start target) nowhere tree changed := by
  obtain ⟨place, content, takes, rfl⟩ := exists_of_copy copied
  rw [Path.aim_of_resolve takes.resolve]
  exact confined_set (fun sound => sound.proper_of_resolve takes.resolve) takes.plain content

/-- Removing a file from a sound tree changes only the place that its path aims at. -/
theorem confined_remove {tree changed : Tree} (sound : tree.Sound)
    (removed : tree.remove path = .ok changed) :
    Confined (· = Path.aim tree.start path) nowhere tree changed := by
  obtain ⟨place, content, leads⟩ := exists_leadsTo_of_remove removed
  obtain rfl := Except.ok.inj ((remove_eq sound leads).symm.trans removed)
  rw [Path.aim_of_resolve leads.resolve]
  have other : ∀ elsewhere, elsewhere ≠ place →
      (tree.without [place]).node? elsewhere = tree.node? elsewhere :=
    fun elsewhere apart => node?_without_of_not_mem (by simpa using apart)
  refine ⟨rfl, fun _ => sound.without _, ?_, ?_, ?_⟩
  · intro elsewhere apart content
    rw [other elsewhere apart]
  · intro home held
    have apart : home ≠ place := by
      rintro rfl
      exact leads.plain held
    rw [other home apart, held]
  · intro home apart
    rw [children_without, List.filter_eq_self]
    intro entry _
    have elsewhere : home ++ [entry.1] ≠ place := by
      rintro rfl
      exact apart _ (.inl rfl) List.dropLast_concat
    simpa using elsewhere

/-- Making a folder changes no file, and makes only this folder. -/
theorem confined_makeFolder {tree changed : Tree} (made : tree.makeFolder path = .ok changed) :
    Confined nowhere (· = Path.aim tree.start path) tree changed := by
  obtain ⟨place, leads, -, nothing, rfl⟩ := exists_of_makeFolder made
  rw [Path.aim_of_resolve leads]
  have below : place ≠ [] := @ne_nil_of_node? tree place (by simp [nothing])
  refine ⟨rfl, fun sound => sound.set (sound.proper_of_resolve leads) _, ?_, ?_, ?_⟩
  · intro elsewhere _ content
    by_cases here : elsewhere = place
    · subst here
      rw [node?_set_self below, nothing]
      simp
    · rw [node?_set_other here]
  · intro home held
    by_cases here : home = place
    · rw [here, node?_set_self below]
    · rw [node?_set_other here, held]
  · intro home apart
    exact children_set_elsewhere (apart place (.inr rfl)) _

/-- A folder that was made is found. -/
theorem find_of_makeFolder {tree changed : Tree} (made : tree.makeFolder path = .ok changed) :
    changed.find path = .ok .folder := by
  have confined := confined_makeFolder made
  obtain ⟨place, leads, short, nothing, rfl⟩ := exists_of_makeFolder made
  have below : place ≠ [] := @ne_nil_of_node? tree place (by simp [nothing])
  have held : (tree.set place .folder).node? place = some .folder := node?_set_self below .folder
  have looked := look_eq_ok_iff.mpr ⟨short, held⟩
  exact find_eq_ok_iff.mpr ⟨place, confined.resolve leads, looked, fun _ => rfl⟩

end Tree

/-! ### Operations in a row -/

namespace Steps

open IniKeeper.Store.Tree (Confined nowhere)

variable {files folders : Place → Prop} {tree made : Tree} {path text : Text} {ε : Type}

/-- A single operation is confined to the places to which it is where it succeeds. -/
theorem confined_once {operation : Tree → Except Cause Tree}
    (confined : ∀ changed, operation tree = .ok changed → Confined files folders tree changed) :
    Confined files folders tree ((once operation).run tree).2 := by
  rw [run_once]
  cases done : operation tree with
  | error cause => exact .refl tree
  | ok changed => exact confined changed done

/-- Two operations in a row are confined to the places to which each is, the second from what the
first left. -/
theorem confined_bind {α β : Type} {first : Steps ε α} {next : α → Steps ε β}
    (confined : Confined files folders tree (first.run tree).2)
    (further : ∀ found between, first.run tree = (.ok found, between) →
      Confined files folders between ((next found).run between).2) :
    Confined files folders tree ((first >>= next).run tree).2 := by
  rcases ran : first.run tree with ⟨error | found, between⟩
  · rw [Attempt.run_bind_of_error ran]
    rw [ran] at confined
    exact confined
  · rw [Attempt.run_bind_of_ok ran]
    rw [ran] at confined
    exact confined.trans (further found between ran)

/-- Ensuring a folder makes this folder at most, which ends its way. -/
theorem confined_ensureFolder (path : Text) (tree : Tree) :
    Confined nowhere (· ∈ Path.way tree.start path) tree ((ensureFolder path).run tree).2 := by
  rw [ensureFolder, run_get_bind]
  cases done : tree.makeFolder path with
  | ok changed =>
    refine (Tree.confined_makeFolder done).mono (fun _ => id) ?_
    rintro place rfl
    exact Path.aim_mem_way tree.start path
  | error cause =>
    cases there : tree.hasFolder path with
    | true => exact .refl tree
    | false => exact .refl tree

/-- A folder that was ensured is found. -/
theorem find_of_ensureFolder (ensured : (ensureFolder path).run tree = (.ok (), made)) :
    made.find path = .ok .folder := by
  rw [ensureFolder, run_get_bind] at ensured
  cases done : tree.makeFolder path with
  | ok changed =>
    rw [done] at ensured
    obtain rfl : changed = made := (Prod.mk.inj ensured).2
    exact Tree.find_of_makeFolder done
  | error cause =>
    rw [done] at ensured
    cases there : tree.hasFolder path with
    | true =>
      simp only [there] at ensured
      obtain rfl : tree = made := (Prod.mk.inj ensured).2
      unfold Tree.hasFolder at there
      split at there
      · assumption
      · contradiction
    | false =>
      simp only [there] at ensured
      have wrong := (Prod.mk.inj ensured).1
      contradiction

/-- The folder of the empty path is there, so nothing is made for it. -/
theorem run_makeFoldersWithin_nil (depth : Nat) (tree : Tree) :
    ((makeFoldersWithin depth []).run tree).2 = tree := by
  cases depth with
  | zero => rfl
  | succ depth => rfl

/-- Making a folder with the folders above it makes folders on its way at most. -/
theorem confined_makeFoldersWithin (depth : Nat) (path : Text) (tree : Tree) :
    Confined nowhere (· ∈ Path.way tree.start path) tree
      ((makeFoldersWithin depth path).run tree).2 := by
  induction depth generalizing path tree with
  | zero => exact .refl tree
  | succ depth ih =>
    rw [makeFoldersWithin]
    split
    · exact .refl tree
    · rw [run_get_bind]
      split
      · exact .refl tree
      · rename_i folder _ parent
        have above : Confined nowhere (· ∈ Path.way tree.start path) tree
            ((makeFoldersWithin depth folder).run tree).2 := by
          by_cases some : folder = []
          · rw [some, run_makeFoldersWithin_nil]
            exact .refl tree
          · exact (ih folder tree).mono (fun _ => id) fun place => Path.way_parent? parent some
        refine confined_bind above fun _ between ran => ?_
        rw [ran] at above
        rw [← above.start]
        exact confined_ensureFolder path between
      · exact confined_ensureFolder path tree

/-- Making all the folders of a path makes folders on its way at most. -/
theorem confined_makeFolders (path : Text) (tree : Tree) :
    Confined nowhere (· ∈ Path.way tree.start path) tree ((makeFolders path).run tree).2 :=
  confined_makeFoldersWithin _ path tree

/-- A folder that was made with the folders above it is found. -/
theorem find_of_makeFolders (some : path ≠ [])
    (done : (makeFolders path).run tree = (.ok (), made)) : made.find path = .ok .folder := by
  rw [makeFolders, makeFoldersWithin, if_neg (by simpa using some), run_get_bind] at done
  split at done
  · have wrong := (Prod.mk.inj done).1
    contradiction
  · obtain ⟨⟨⟩, between, -, ensured⟩ := Attempt.exists_of_run_bind_ok done
    exact find_of_ensureFolder ensured
  · exact find_of_ensureFolder done

/-- Writing text changes the file where it succeeds, and nothing where it fails. -/
theorem confined_writeText (path text : Text) (meaning : Cause → ε) (tree : Tree) :
    Confined (fun place =>
        (((writeText path text).adapt meaning : Steps ε Unit).run tree).1 = .ok () ∧
          place = Path.aim tree.start path)
      nowhere tree (((writeText path text).adapt meaning : Steps ε Unit).run tree).2 := by
  rw [run_adapt, writeText, run_once]
  cases written : tree.writeText path text with
  | error cause => exact .refl tree
  | ok changed =>
    exact (Tree.confined_write written).mono (fun _ here => ⟨rfl, here⟩) fun _ => id

/-- Putting text into a file changes the file where it succeeds, and makes folders on its way at
most. -/
theorem confined_putText (path text : Text) (tree : Tree) :
    Confined (fun place => ((putText path text).run tree).1 = .ok () ∧
        place = Path.aim tree.start path)
      (· ∈ Path.way tree.start path) tree ((putText path text).run tree).2 := by
  unfold putText
  cases parent : (Path.parent? path).filter (!·.isEmpty) with
  | none =>
    exact (confined_writeText path text (Fault.inaccessible path) tree).mono (fun _ => id)
      fun _ none => none.elim
  | some folder =>
    obtain ⟨above, filled⟩ := Option.filter_eq_some_iff.mp parent
    have some : folder ≠ [] := by simpa using filled
    have made : Confined nowhere (· ∈ Path.way tree.start path) tree
        ((makeFolders folder).run tree).2 :=
      (confined_makeFolders folder tree).mono (fun _ => id) fun place => Path.way_parent? above some
    dsimp only
    rcases ran :
        ((makeFolders folder).adapt (Fault.inaccessible folder) : Steps Fault Unit).run tree with
      ⟨error | ⟨⟨⟩⟩, between⟩
    · rw [Attempt.run_bind_of_error ran]
      obtain rfl := (Prod.mk.inj ran).2
      exact made.mono (fun _ none => none.elim) fun _ => id
    · rw [Attempt.run_bind_of_ok ran]
      obtain rfl := (Prod.mk.inj ran).2
      have written := confined_writeText path text (Fault.inaccessible path)
        ((makeFolders folder).run tree).2
      rw [made.start] at written
      exact (made.mono (fun _ none => none.elim) fun _ => id).trans
        (written.mono (fun _ => id) fun _ none => none.elim)

end Steps

end Store

end IniKeeper
