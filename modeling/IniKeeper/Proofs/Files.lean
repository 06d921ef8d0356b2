import IniKeeper.Proofs.Guarding
import IniKeeper.Proofs.Places

/-!
# Files in a tree

Each operation on a file is told by the place that its path leads to: what must hold for it to
succeed, and the one change that it then makes. A folder lists what lies directly in it, and files
that come or go elsewhere do not change its list.
-/

namespace IniKeeper

namespace Store

namespace Tree

variable {tree other : Tree} {path : Text} {place : Place} {content : ByteArray}

/-! ### Reading and writing -/

/-- Whether a path leads to a file with a content. -/
structure LeadsTo (tree : Tree) (path : Text) (place : Place) (content : ByteArray) : Prop where
  /-- The path leads to the place. -/
  resolve : tree.resolve path = .ok place
  /-- The name of the place can be looked up. -/
  short : Short place
  /-- The place holds the file. -/
  node : tree.node? place = some (.file content)
  /-- The path can name a file. -/
  file : Path.namesFolder path = false

/-- Whether a file can be written at a path. -/
structure Takes (tree : Tree) (path : Text) (place : Place) : Prop where
  /-- The path leads to the place. -/
  resolve : tree.resolve path = .ok place
  /-- The name of the place can be looked up. -/
  short : Short place
  /-- No folder is there. -/
  plain : tree.node? place ≠ some .folder
  /-- The path does not end in a slash. -/
  unended : Path.endsInSlash path = false
  /-- The path does not end in a dot of its own. -/
  elsewhere : Path.endsHere path = false

/-- What a path leads to is found unless the path can only name a folder and leads to a file. -/
theorem find_eq_ok_iff {node : Node} :
    tree.find path = .ok node ↔
      ∃ place, tree.resolve path = .ok place ∧ tree.look place = .ok (some node) ∧
        (Path.namesFolder path = true → node = .folder) := by
  simp only [find, Attempt.bind_eq_ok_iff]
  constructor
  · rintro ⟨place, leads, held, looked, found⟩
    refine ⟨place, leads, ?_⟩
    split at found
    · contradiction
    · split at found
      · contradiction
      · rename_i content plain
        obtain rfl := Except.ok.inj found
        exact ⟨looked, fun names => absurd names plain⟩
    · obtain rfl := Except.ok.inj found
      exact ⟨looked, fun _ => rfl⟩
  · rintro ⟨place, leads, looked, plain⟩
    refine ⟨place, leads, some node, looked, ?_⟩
    cases node with
    | folder => rfl
    | file content =>
      have other : Path.namesFolder path = false := by
        cases names : Path.namesFolder path with
        | false => rfl
        | true => exact absurd (plain names) (by simp)
      simp [other]

/-- A file is found exactly where its path leads to it. -/
theorem find_file_iff :
    tree.find path = .ok (.file content) ↔ ∃ place, tree.LeadsTo path place content := by
  rw [find_eq_ok_iff]
  constructor
  · rintro ⟨place, leads, looked, plain⟩
    obtain ⟨short, held⟩ := look_eq_ok_iff.mp looked
    refine ⟨place, leads, short, held, ?_⟩
    cases names : Path.namesFolder path with
    | false => rfl
    | true => exact absurd (plain names) (by simp)
  · rintro ⟨place, leads⟩
    refine ⟨place, leads.resolve, look_eq_ok_iff.mpr ⟨leads.short, leads.node⟩, fun names => ?_⟩
    rw [leads.file] at names
    contradiction

/-- A file can be read exactly where its path leads to it. -/
theorem read_eq_ok_iff :
    tree.read path = .ok content ↔ ∃ place, tree.LeadsTo path place content := by
  rw [← find_file_iff]
  simp only [read, Attempt.bind_eq_ok_iff]
  constructor
  · rintro ⟨node, found, held⟩
    cases node with
    | folder => simp at held
    | file inside => exact (Except.ok.inj held) ▸ found
  · exact fun found => ⟨.file content, found, rfl⟩

/-- Nothing can be read where nothing is. -/
theorem find_missing (leads : tree.resolve path = .ok place) (short : Short place)
    (nothing : tree.node? place = none) : tree.find path = .error .missing := by
  have looked := look_eq_ok_iff.mpr ⟨short, nothing⟩
  simp [find, leads, looked, bind, Except.bind]

/-- Writing succeeds exactly where a file can be written, and puts the content there. -/
theorem write_eq_ok_iff {changed : Tree} :
    tree.write path content = .ok changed ↔
      ∃ place, tree.Takes path place ∧ changed = tree.set place (.file content) := by
  simp only [write, Attempt.bind_eq_ok_iff]
  constructor
  · rintro ⟨place, leads, written⟩
    split at written
    · contradiction
    · rename_i ending
      obtain ⟨there, looked, written⟩ := Attempt.bind_eq_ok_iff.mp written
      obtain ⟨short, held⟩ := look_eq_ok_iff.mp looked
      have finished : there ≠ some .folder ∧ Path.endsHere path = false ∧
          changed = tree.set place (.file content) := by
        split at written
        · contradiction
        all_goals
          split at written
          · contradiction
          · rename_i other
            exact ⟨by simp, by simpa using other, (Except.ok.inj written).symm⟩
      obtain ⟨plain, elsewhere, same⟩ := finished
      have unended : Path.endsInSlash path = false := by simpa [elsewhere] using ending
      exact ⟨place, ⟨leads, short, held ▸ plain, unended, elsewhere⟩, same⟩
  · rintro ⟨place, takes, rfl⟩
    refine ⟨place, takes.resolve, ?_⟩
    have looked : tree.look place = .ok (tree.node? place) := look_eq_ok_iff.mpr ⟨takes.short, rfl⟩
    have plain := takes.plain
    rw [takes.unended, looked]
    cases held : tree.node? place with
    | none => simp [takes.elsewhere, bind, Except.bind]
    | some node =>
      cases node with
      | folder => exact absurd held plain
      | file old => simp [takes.elsewhere, bind, Except.bind]

/-- A path at which a file can be written can name a file. -/
theorem Takes.file (takes : tree.Takes path place) : Path.namesFolder path = false :=
  Path.namesFolder_eq_false takes.unended takes.elsewhere

/-- A path at which a file can be written leads to the file once it is put there. -/
theorem Takes.leadsTo_set (takes : tree.Takes path place) (content : ByteArray) :
    (tree.set place (.file content)).LeadsTo path place content where
  resolve := (sameFolders_set takes.plain content).resolve_eq_ok_iff.mpr takes.resolve
  short := takes.short
  node := node?_set_self (ne_nil_of_node? takes.plain) _
  file := takes.file

/-- A file can be written where one could be in a tree with the same folders. -/
theorem Takes.of_sameFolders (takes : tree.Takes path place) (same : SameFolders tree other) :
    other.Takes path place where
  resolve := same.resolve_eq_ok_iff.mpr takes.resolve
  short := takes.short
  plain := fun folder => takes.plain ((same.folders place).mp folder)
  unended := takes.unended
  elsewhere := takes.elsewhere

/-- A path leads to a file that is at the same place in a tree with the same folders. -/
theorem LeadsTo.of_sameFolders (leads : tree.LeadsTo path place content)
    (same : SameFolders tree other) {now : ByteArray}
    (node : other.node? place = some (.file now)) : other.LeadsTo path place now where
  resolve := same.resolve_eq_ok_iff.mpr leads.resolve
  short := leads.short
  node := node
  file := leads.file

/-- A folder that is found is found in a tree with the same folders. -/
theorem SameFolders.find_folder (same : SameFolders tree other)
    (found : tree.find path = .ok .folder) :
    other.find path = .ok .folder := by
  obtain ⟨place, leads, looked, plain⟩ := find_eq_ok_iff.mp found
  obtain ⟨short, held⟩ := look_eq_ok_iff.mp looked
  have still := look_eq_ok_iff.mpr ⟨short, (same.folders place).mpr held⟩
  exact find_eq_ok_iff.mpr ⟨place, same.resolve_eq_ok_iff.mpr leads, still, plain⟩

/-- A place to which the path of a file leads holds no folder. -/
theorem LeadsTo.plain (leads : tree.LeadsTo path place content) :
    tree.node? place ≠ some .folder := by
  rw [leads.node]
  simp

/-- Copying a file puts its content where the target can be written. -/
theorem copy_eq {target : Text} {there : Place} (leads : tree.LeadsTo path place content)
    (takes : tree.Takes target there) (apart : place ≠ there) :
    tree.copy path target = .ok (tree.set there (.file content)) := by
  have found := find_file_iff.mpr ⟨place, leads⟩
  -- The source is read from the tree in which the target is emptied already.
  have same := sameFolders_set takes.plain ByteArray.empty
  have emptied : tree.write target ByteArray.empty =
      .ok (tree.set there (.file ByteArray.empty)) := write_eq_ok_iff.mpr ⟨there, takes, rfl⟩
  have still : (tree.set there (.file ByteArray.empty)).read path = .ok content :=
    read_eq_ok_iff.mpr ⟨place, leads.of_sameFolders same
      ((node?_set_other apart _).trans leads.node)⟩
  have written : (tree.set there (.file ByteArray.empty)).write target content =
      .ok ((tree.set there (.file ByteArray.empty)).set there (.file content)) :=
    write_eq_ok_iff.mpr ⟨there, takes.of_sameFolders same, rfl⟩
  rw [set_set] at written
  simp [copy, found, emptied, still, written, bind, Except.bind]

/-- What cannot be found cannot be copied. -/
theorem copy_of_not_found {cause : Cause} (failed : tree.find path = .error cause)
    (target : Text) : tree.copy path target = .error cause := by
  simp [copy, failed, bind, Except.bind]

/-- Removing a file takes it from its place. -/
theorem remove_eq (sound : tree.Sound) (leads : tree.LeadsTo path place content) :
    tree.remove path = .ok (tree.without [place]) := by
  have found := find_file_iff.mpr ⟨place, leads⟩
  simp [remove, found, leads.resolve, sound.unset_eq, bind, Except.bind]

/-- What can be removed is a file. -/
theorem exists_leadsTo_of_remove {changed : Tree} (removed : tree.remove path = .ok changed) :
    ∃ place content, tree.LeadsTo path place content := by
  obtain ⟨node, found, taken⟩ := Attempt.bind_eq_ok_iff.mp removed
  cases node with
  | folder => simp at taken
  | file content =>
    obtain ⟨place, leads⟩ := find_file_iff.mp found
    exact ⟨place, content, leads⟩

/-- A path at which a file can be written leads to a file or to nothing. -/
theorem Takes.absent_or_file (takes : tree.Takes path place) :
    tree.has path = false ∧ (∀ content, tree.read path ≠ .ok content) ∨
      tree.has path = true ∧ ∃ content, tree.LeadsTo path place content := by
  cases held : tree.node? place with
  | none =>
    have nothing := find_missing takes.resolve takes.short held
    refine .inl ⟨by rw [has, nothing], fun content reads => ?_⟩
    rw [read, nothing] at reads
    simp [bind, Except.bind] at reads
  | some node =>
    cases node with
    | folder => exact absurd held takes.plain
    | file content =>
      have leads : tree.LeadsTo path place content := ⟨takes.resolve, takes.short, held, takes.file⟩
      have found := find_file_iff.mpr ⟨place, leads⟩
      exact .inr ⟨by rw [has, found], content, leads⟩

/-! ### What a folder lists -/

/-- What a folder directly holds, each with its name. -/
def children (tree : Tree) (folder : Place) : List (Text × Node) :=
  tree.nodes.filterMap fun entry => (nameIn? folder entry.1).map (·, entry.2)

/-- A folder is listed where its path leads to it. -/
theorem list_eq {folder : Place} (leads : tree.resolve path = .ok folder)
    (found : tree.find path = .ok .folder) : tree.list path = .ok (tree.children folder) := by
  simp [list, found, leads, bind, Except.bind, children]

/-- A place has a name in a folder when it lies one step below. -/
theorem nameIn?_eq_some_iff {folder place : Place} {name : Text} :
    nameIn? folder place = some name ↔ place = folder ++ [name] := by
  unfold nameIn?
  constructor
  · intro named
    obtain ⟨above, last⟩ := Option.ite_none_right_eq_some.mp named
    have whole := List.dropLast_append_getLast? name last
    rw [above] at whole
    exact whole.symm
  · rintro rfl
    simp

/-- A folder of a sound tree lists what the places one step below hold. -/
theorem Sound.mem_children_iff (sound : tree.Sound) {folder : Place} {name : Text} {node : Node} :
    (name, node) ∈ tree.children folder ↔ tree.node? (folder ++ [name]) = some node := by
  rw [sound.node?_eq_some_iff (by simp), children, List.mem_filterMap]
  constructor
  · rintro ⟨⟨place, held⟩, member, listed⟩
    obtain ⟨found, named, same⟩ := Option.map_eq_some_iff.mp listed
    simp only [Prod.mk.injEq] at same
    obtain ⟨rfl, rfl⟩ := same
    exact nameIn?_eq_some_iff.mp named ▸ member
  · intro member
    exact ⟨_, member, by simp [nameIn?_eq_some_iff.mpr rfl]⟩

/-- The names that a folder of a sound tree lists are distinct. -/
theorem Sound.nodup_children (sound : tree.Sound) (folder : Place) :
    ((tree.children folder).map Prod.fst).Nodup := by
  have names : (tree.children folder).map Prod.fst =
      tree.nodes.filterMap fun entry => nameIn? folder entry.1 := by
    rw [children, List.map_filterMap]
    congr 1
    funext entry
    cases nameIn? folder entry.1 <;> rfl
  rw [names]
  refine List.pairwise_filterMap.mpr ((List.pairwise_map.mp sound.distinct).imp ?_)
  intro one two different name first another second same
  subst same
  have here := nameIn?_eq_some_iff.mp first
  have there := nameIn?_eq_some_iff.mp second
  exact different (here.trans there.symm)

/-- A new file comes last in its folder. -/
theorem children_set_new {folder : Place} {name : Text}
    (fresh : tree.node? (folder ++ [name]) = none) (node : Node) :
    (tree.set (folder ++ [name]) node).children folder =
      tree.children folder ++ [(name, node)] := by
  have others : ∀ entry ∈ tree.nodes, entry.1 ≠ folder ++ [name] := by
    rw [node?, if_neg (by simp), Option.map_eq_none_iff, Roster.get?, List.find?_eq_none] at fresh
    intro entry member same
    exact fresh entry member (by simpa using same)
  rw [children, set, Roster.upsert_of_forall_ne Prod.fst _ _ _ _ others, List.filterMap_append,
    ← children]
  simp [nameIn?_eq_some_iff.mpr rfl]

/-- What is put elsewhere is not listed. -/
theorem children_set_elsewhere {folder : Place} (elsewhere : place.dropLast ≠ folder)
    (node : Node) : (tree.set place node).children folder = tree.children folder := by
  have pick : ∀ entry : Place × Node, entry.1 = place →
      (nameIn? folder entry.1).map (·, entry.2) = none := by
    rintro entry rfl
    simp [nameIn?, elsewhere]
  rw [children, set, Roster.filterMap_upsert_of_none]
  · rfl
  · exact pick (place, node) rfl
  · exact pick

/-- What was taken is no longer listed. -/
theorem children_without (tree : Tree) (folder : Place) (places : List Place) :
    (tree.without places).children folder =
      (tree.children folder).filter fun entry => folder ++ [entry.1] ∉ places := by
  rw [children, without, children, List.filter_filterMap, List.filterMap_filter]
  congr 1
  funext entry
  cases named : nameIn? folder entry.1 with
  | none => simp
  | some name =>
    rw [nameIn?_eq_some_iff.mp named]
    by_cases taken : folder ++ [name] ∈ places <;> simp [taken, Option.filter]

/-- A folder that is there cannot be made again. -/
theorem makeFolder_of_found (found : tree.find path = .ok .folder) :
    tree.makeFolder path = .error .occupied := by
  obtain ⟨place, leads, looked, -⟩ := find_eq_ok_iff.mp found
  simp [makeFolder, leads, looked, bind, Except.bind]

/-- A folder is made where nothing was. -/
theorem exists_of_makeFolder {changed : Tree} (made : tree.makeFolder path = .ok changed) :
    ∃ place, tree.resolve path = .ok place ∧ Short place ∧ tree.node? place = none ∧
      changed = tree.set place .folder := by
  obtain ⟨place, leads, rest⟩ := Attempt.bind_eq_ok_iff.mp made
  obtain ⟨found, looked, rest⟩ := Attempt.bind_eq_ok_iff.mp rest
  obtain ⟨short, held⟩ := look_eq_ok_iff.mp looked
  split at rest
  · contradiction
  · contradiction
  · split at rest
    · contradiction
    · exact ⟨place, leads, short, held, (Except.ok.inj rest).symm⟩

end Tree

namespace Steps

variable {tree : Tree} {path : Text}

/-- Operations that begin by looking at the tree work on the tree as it is. -/
theorem run_get_bind {ε α : Type} (next : Tree → Steps ε α) (tree : Tree) :
    ((get : Steps ε Tree) >>= next).run tree = (next tree).run tree :=
  rfl

/-- Nothing is done to ensure a folder that is there. -/
theorem run_ensureFolder_of_found (found : tree.find path = .ok .folder) :
    (ensureFolder path).run tree = (.ok (), tree) := by
  have has : tree.hasFolder path = true := by rw [Tree.hasFolder, found]
  rw [ensureFolder, run_get_bind, Tree.makeFolder_of_found found, has]
  rfl

/-- Nothing is done to make a folder that is there with all folders above. -/
theorem run_makeFolders_of_found (found : tree.find path = .ok .folder) :
    (makeFolders path).run tree = (.ok (), tree) := by
  have filled : path ≠ [] := by
    obtain ⟨place, leads, -⟩ := Tree.find_eq_ok_iff.mp found
    exact (Tree.resolve_eq_ok_iff.mp leads).1.1
  rw [makeFolders, makeFoldersWithin, if_neg (by simpa using filled), run_get_bind,
    Tree.makeFolder_of_found found]
  exact run_ensureFolder_of_found found

end Steps

end Store

end IniKeeper
