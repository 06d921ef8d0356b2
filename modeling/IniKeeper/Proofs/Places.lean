import IniKeeper.Proofs.LineEnds
import IniKeeper.Proofs.Rosters
import IniKeeper.Store.Tree

/-!
# Places in a tree

What a path leads to depends on the folders that it goes through and on nothing else, so a file
that is written or removed changes what its own place holds and leaves every path leading where it
led. This module states that for trees whose places are distinct and made of proper names.
-/

namespace IniKeeper

namespace Store

/-! ### Names and paths -/

namespace Path

/-- Whether a name leads one step down from a folder, wherever it stands in a path. -/
structure Proper (name : Text) : Prop where
  /-- It leads somewhere. -/
  step : isStep name = true
  /-- It does not lead up. -/
  down : name ≠ above
  /-- It is one piece of a path. -/
  whole : '/' ∉ name

/-- Proper names can be told from others. -/
instance (name : Text) : Decidable (Proper name) :=
  decidable_of_iff (isStep name = true ∧ name ≠ above ∧ '/' ∉ name)
    ⟨fun ⟨step, down, whole⟩ => ⟨step, down, whole⟩,
      fun proper => ⟨proper.step, proper.down, proper.whole⟩⟩

/-- A step of a path is a proper name, or it leads up. -/
theorem proper_of_mem_steps {path name : Text} (member : name ∈ steps path) :
    name = above ∨ Proper name := by
  obtain ⟨piece, step⟩ := List.mem_filter.mp member
  by_cases up : name = above
  · exact .inl up
  · exact .inr ⟨step, up, Text.not_mem_of_mem_splitOn piece⟩

variable {folder name : Text}

/-- A name without slashes is read from the folder that it is under. -/
theorem under_eq (some : folder ≠ []) (whole : '/' ∉ name) :
    under folder name = folder ++ '/' :: name ∨
      ∃ front, folder = front ++ ['/'] ∧ under folder name = front ++ '/' :: name := by
  have relative : isAbsolute name = false := by
    cases name with
    | nil => rfl
    | cons c rest =>
      have other : c ≠ '/' := fun same => whole (same ▸ List.mem_cons_self)
      simpa [isAbsolute] using other
  have plain : folder.isEmpty = false := List.isEmpty_eq_false_iff.mpr some
  unfold under
  rw [relative, plain]
  by_cases ended : folder.getLast? = Option.some '/'
  · obtain ⟨front, rfl⟩ := List.getLast?_eq_some_iff.mp ended
    exact .inr ⟨front, rfl, by simp⟩
  · exact .inl (by simp [ended])

/-- The steps to a name under a folder are those to the folder and the name. -/
theorem steps_under (some : folder ≠ []) (proper : Proper name) :
    steps (under folder name) = steps folder ++ [name] := by
  have single : name.splitOn '/' = [name] := List.splitOn_eq_singleton proper.whole
  have kept : [name].filter isStep = [name] := by simp [proper.step]
  rcases under_eq some proper.whole with joined | ⟨front, rfl, joined⟩
  · rw [joined, steps, List.splitOn_append_cons_self, List.filter_append, single, kept, steps]
  · have ended : steps (front ++ ['/']) = (front.splitOn '/').filter isStep := by
      rw [steps, List.splitOn_append_cons_self, List.filter_append, List.splitOn_nil]
      exact List.append_nil _
    rw [joined, steps, List.splitOn_append_cons_self, List.filter_append, single, kept, ended]

/-- A name under a folder is read from where the folder is read. -/
theorem isAbsolute_under (some : folder ≠ []) (whole : '/' ∉ name) :
    isAbsolute (under folder name) = isAbsolute folder := by
  rcases under_eq some whole with joined | ⟨front, rfl, joined⟩
  · rw [joined]
    cases folder with
    | nil => contradiction
    | cons c rest => rfl
  · rw [joined]
    cases front <;> rfl

/-- Pieces of which the last is empty make a path that ends in a slash. -/
theorem endsInSlash_join {pieces : List Text} (some : pieces ≠ []) :
    endsInSlash (join (pieces ++ [[]])) = true := by
  have last : (join (pieces ++ [[]])).getLast? = Option.some '/' := by
    induction pieces with
    | nil => contradiction
    | cons piece rest ih =>
      cases rest with
      | nil => simp [join, List.intercalate_cons_cons]
      | cons next more =>
        have step := ih (List.cons_ne_nil next more)
        rw [join, List.cons_append, List.cons_append, List.intercalate_cons_cons]
        rw [join, List.cons_append] at step
        simp [List.getLast?_append, List.getLast?_cons, step]
  rw [endsInSlash, last]
  rfl

/-- A path that ends neither in a slash nor in a dot of its own can name a file. -/
theorem namesFolder_eq_false {path : Text} (unended : endsInSlash path = false)
    (elsewhere : endsHere path = false) : namesFolder path = false := by
  unfold namesFolder
  split
  · rename_i last next more backwards
    have pieces : path.splitOn '/' = (next :: more).reverse ++ [last] := by
      rw [← List.reverse_cons, ← backwards, List.reverse_reverse]
    have filled : last ≠ [] := by
      rintro rfl
      have whole : join (path.splitOn '/') = path := List.intercalate_splitOn '/'
      rw [pieces] at whole
      have ended := @endsInSlash_join (next :: more).reverse (by simp)
      rw [whole, unended] at ended
      contradiction
    have named : last ≠ here := by
      rintro rfl
      simp [endsHere, backwards, here] at elsewhere
    simp [isStep, filled, named]
  · rfl

end Path

/-! ### What a place holds -/

namespace Tree

variable {tree other : Tree} {place : Place} {node : Node}

/-- A tree whose places are distinct and made of proper names, and so is where it starts. -/
structure Sound (tree : Tree) : Prop where
  /-- No place stands twice. -/
  distinct : (tree.nodes.map Prod.fst).Nodup
  /-- Each place is made of proper names. -/
  proper : ∀ place ∈ tree.nodes.map Prod.fst, ∀ name ∈ place, Path.Proper name
  /-- The place where relative paths start is made of proper names. -/
  start : ∀ name ∈ tree.start, Path.Proper name

/-- The tree with nothing at some places. -/
def without (tree : Tree) (places : List Place) : Tree :=
  { tree with nodes := tree.nodes.filter fun entry => entry.1 ∉ places }

/-- A place below the root holds what is listed for it. -/
theorem Sound.node?_eq_some_iff (sound : tree.Sound) (below : place ≠ []) :
    tree.node? place = some node ↔ (place, node) ∈ tree.nodes := by
  rw [node?, if_neg below, Option.map_eq_some_iff]
  constructor
  · rintro ⟨⟨found, held⟩, looked, rfl⟩
    obtain ⟨member, rfl⟩ := Roster.of_get?_eq_some _ _ _ looked
    exact member
  · intro member
    exact ⟨(place, node), (Roster.get?_eq_some_iff sound.distinct).mpr ⟨member, rfl⟩, rfl⟩

/-- What is no folder lies below the root. -/
theorem ne_nil_of_node? (plain : tree.node? place ≠ some .folder) : place ≠ [] := by
  rintro rfl
  exact plain rfl

/-- A place holds what was put there. -/
theorem node?_set_self (below : place ≠ []) (node : Node) :
    (tree.set place node).node? place = some node := by
  rw [node?, if_neg below, set, Roster.get?_upsert_self]
  · rfl
  · rfl
  · exact fun _ _ _ => rfl

/-- Putting something at a place leaves what the other places hold. -/
theorem node?_set_other {elsewhere : Place} (different : elsewhere ≠ place) (node : Node) :
    (tree.set place node).node? elsewhere = tree.node? elsewhere := by
  rw [node?, node?, set, Roster.get?_upsert_other]
  · exact different
  · rfl
  · exact fun _ _ _ => rfl

/-- Of two things put at a place the second counts. -/
theorem set_set (tree : Tree) (place : Place) (first second : Node) :
    (tree.set place first).set place second = tree.set place second := by
  have nodes := Roster.upsert_put_put Prod.fst (place, second) (place, first) (place, first)
    (place, second) rfl tree.nodes
  exact congrArg (Tree.mk tree.start) nodes

/-- A place from which things were taken holds nothing. -/
theorem node?_without_of_mem {places : List Place} (taken : place ∈ places) (below : place ≠ []) :
    (tree.without places).node? place = none := by
  have nothing : Roster.get? Prod.fst place (tree.without places).nodes = none := by
    rw [Roster.get?, without, List.find?_filter, List.find?_eq_none]
    intro entry _
    by_cases here : entry.1 = place <;> simp [here, taken]
  rw [node?, if_neg below, nothing]
  rfl

/-- A place from which nothing was taken holds what it held. -/
theorem node?_without_of_not_mem {places : List Place} (left : place ∉ places) :
    (tree.without places).node? place = tree.node? place := by
  have same : Roster.get? Prod.fst place (tree.without places).nodes =
      Roster.get? Prod.fst place tree.nodes := by
    rw [Roster.get?, without, List.find?_filter]
    congr 1
    funext entry
    by_cases here : entry.1 = place <;> simp [here, left]
  rw [node?, node?, same]

/-- Things can be taken from some places and then from others. -/
theorem without_without (tree : Tree) (places more : List Place) :
    (tree.without places).without more = tree.without (places ++ more) := by
  simp [without, List.filter_filter, Bool.and_comm]

/-- Nothing is taken from no places. -/
theorem without_nil (tree : Tree) : tree.without [] = tree := by
  have kept : tree.nodes.filter (fun entry => entry.1 ∉ ([] : List Place)) = tree.nodes :=
    List.filter_eq_self.mpr fun _ _ => by simp
  exact congrArg (Tree.mk tree.start) kept

/-- Where places are distinct, taking what a place holds leaves all else. -/
theorem Sound.unset_eq (sound : tree.Sound) (place : Place) :
    tree.unset place = tree.without [place] := by
  have nodes := Roster.erase_eq_filter sound.distinct place
  rw [unset, nodes]
  simp [without]

/-- A tree stays sound when something is put at a place of proper names. -/
theorem Sound.set (sound : tree.Sound) (proper : ∀ name ∈ place, Path.Proper name) (node : Node) :
    (tree.set place node).Sound := by
  have names : (tree.set place node).nodes.map Prod.fst =
      Roster.enroll place (tree.nodes.map Prod.fst) :=
    Roster.names_upsert Prod.fst place (place, node) (fun _ => (place, node)) tree.nodes rfl
      fun _ _ _ => rfl
  refine ⟨?_, ?_, sound.start⟩
  · rw [names]
    exact Roster.nodup_enroll sound.distinct
  · intro found member
    rw [names, Roster.mem_enroll] at member
    rcases member with old | rfl
    · exact sound.proper found old
    · exact proper

/-- A tree stays sound when things are taken from it. -/
theorem Sound.without (sound : tree.Sound) (places : List Place) :
    (tree.without places).Sound := by
  have fewer : (tree.without places).nodes.Sublist tree.nodes := List.filter_sublist
  have names := fewer.map Prod.fst
  exact ⟨sound.distinct.sublist names, fun place member => sound.proper place (names.subset member),
    sound.start⟩

/-! ### Where paths lead -/

/-- Whether two trees start at one place and have the same folders. -/
structure SameFolders (tree other : Tree) : Prop where
  /-- Relative paths start at the same place. -/
  start : other.start = tree.start
  /-- A place holds a folder in both trees or in none. -/
  folders : ∀ place, other.node? place = some .folder ↔ tree.node? place = some .folder

/-- A tree has the folders of a second one if it has those of a third with the same. -/
theorem SameFolders.trans {next : Tree} (same : SameFolders tree other)
    (further : SameFolders other next) : SameFolders tree next :=
  ⟨further.start.trans same.start, fun place => (further.folders place).trans (same.folders place)⟩

/-- A file that is put where no folder is leaves the folders. -/
theorem sameFolders_set (plain : tree.node? place ≠ some .folder) (content : ByteArray) :
    SameFolders tree (tree.set place (.file content)) := by
  refine ⟨rfl, fun elsewhere => ?_⟩
  by_cases here : elsewhere = place
  · subst here
    rw [node?_set_self (ne_nil_of_node? plain)]
    simp [plain]
  · rw [node?_set_other here]

/-- Files that are taken leave the folders. -/
theorem sameFolders_without {places : List Place}
    (plain : ∀ place ∈ places, tree.node? place ≠ some .folder) :
    SameFolders tree (tree.without places) := by
  refine ⟨rfl, fun elsewhere => ?_⟩
  by_cases taken : elsewhere ∈ places
  · have other := plain elsewhere taken
    rw [node?_without_of_mem taken (ne_nil_of_node? other)]
    simp [other]
  · rw [node?_without_of_not_mem taken]

/-- Whether the last name of a place is short enough to be looked up. -/
def Short (place : Place) : Prop := place.getLast?.any (maxNameBytes < Text.byteSize ·) = false

/-- Looking at a place with a short name shows what it holds. -/
theorem look_eq_ok_iff {found : Option Node} :
    tree.look place = .ok found ↔ Short place ∧ tree.node? place = found := by
  unfold look Short
  cases place.getLast?.any (maxNameBytes < Text.byteSize ·) <;> simp

/-- A step is walked from a folder. -/
theorem walk_cons_eq_ok_iff {name : Text} {rest : List Text} {found : Place} :
    tree.walk place (name :: rest) = .ok found ↔
      tree.look place = .ok (some .folder) ∧ tree.walk (step place name) rest = .ok found := by
  rw [walk]
  cases tree.look place with
  | error cause => simp [bind, Except.bind]
  | ok held =>
    cases held with
    | none => simp [bind, Except.bind]
    | some node => cases node <;> simp [bind, Except.bind]

/-- The last of some steps is walked from the folder that the others lead to. -/
theorem walk_concat_eq_ok_iff {front : List Text} {name : Text} {found : Place} :
    tree.walk place (front ++ [name]) = .ok found ↔
      ∃ folder, tree.walk place front = .ok folder ∧ tree.look folder = .ok (some .folder) ∧
        found = step folder name := by
  induction front generalizing place with
  | nil =>
    rw [List.nil_append, walk_cons_eq_ok_iff]
    constructor
    · rintro ⟨looked, walked⟩
      exact ⟨place, rfl, looked, (Except.ok.inj walked).symm⟩
    · rintro ⟨folder, here, looked, rfl⟩
      obtain rfl := Except.ok.inj here
      exact ⟨looked, rfl⟩
  | cons first rest ih =>
    rw [List.cons_append, walk_cons_eq_ok_iff, ih]
    simp only [walk_cons_eq_ok_iff]
    constructor
    · rintro ⟨looked, folder, walked, inside, rfl⟩
      exact ⟨folder, ⟨looked, walked⟩, inside, rfl⟩
    · rintro ⟨folder, ⟨looked, walked⟩, inside, rfl⟩
      exact ⟨looked, folder, walked, inside, rfl⟩

/-- Steps lead to the same place where the folders are the same. -/
theorem SameFolders.walk_eq_ok_iff (same : SameFolders tree other) {steps : List Text}
    {found : Place} : other.walk place steps = .ok found ↔ tree.walk place steps = .ok found := by
  induction steps generalizing place with
  | nil => exact Iff.rfl
  | cons name rest ih =>
    rw [walk_cons_eq_ok_iff, walk_cons_eq_ok_iff, ih, look_eq_ok_iff, look_eq_ok_iff,
      same.folders place]

/-- Where a path is read from. -/
def origin (tree : Tree) (path : Text) : Place := if Path.isAbsolute path then [] else tree.start

/-- A path that can be read leads where its steps do. -/
theorem resolve_eq_ok_iff {path : Text} :
    tree.resolve path = .ok place ↔
      (path ≠ [] ∧ path.contains '\x00' = false ∧ Text.byteSize path ≤ maxPathBytes) ∧
        tree.walk (tree.origin path) (Path.steps path) = .ok place := by
  unfold resolve origin
  cases path with
  | nil => simp
  | cons c rest =>
    cases badName : (c :: rest).contains '\x00' with
    | true => simp
    | false =>
      by_cases long : maxPathBytes < Text.byteSize (c :: rest)
      · simp [long, Nat.not_le.mpr long]
      · simp [long, Nat.le_of_not_lt long]

/-- A path leads to the same place where the folders are the same. -/
theorem SameFolders.resolve_eq_ok_iff (same : SameFolders tree other) {path : Text} :
    other.resolve path = .ok place ↔ tree.resolve path = .ok place := by
  have origin : other.origin path = tree.origin path := by rw [Tree.origin, Tree.origin, same.start]
  rw [Tree.resolve_eq_ok_iff, Tree.resolve_eq_ok_iff, origin, same.walk_eq_ok_iff]

/-- Steps from a place of proper names lead to one. -/
theorem proper_of_walk {steps : List Text}
    (proper : ∀ name ∈ place, Path.Proper name)
    (sound : ∀ name ∈ steps, name = Path.above ∨ Path.Proper name) {found : Place}
    (walked : tree.walk place steps = .ok found) : ∀ name ∈ found, Path.Proper name := by
  induction steps generalizing place with
  | nil => exact Except.ok.inj walked ▸ proper
  | cons name rest ih =>
    obtain ⟨-, walked⟩ := walk_cons_eq_ok_iff.mp walked
    have further := fun other member => sound other (List.mem_cons_of_mem name member)
    refine ih ?_ further walked
    unfold step
    split
    · exact fun other member => proper other (List.dropLast_subset place member)
    · rename_i down
      intro other member
      rcases List.mem_append.mp member with old | new
      · exact proper other old
      · rw [List.mem_singleton.mp new]
        exact (sound name List.mem_cons_self).resolve_left down

/-- A path in a sound tree leads to a place of proper names. -/
theorem Sound.proper_of_resolve (sound : tree.Sound) {path : Text}
    (leads : tree.resolve path = .ok place) : ∀ name ∈ place, Path.Proper name := by
  obtain ⟨-, walked⟩ := resolve_eq_ok_iff.mp leads
  refine proper_of_walk ?_ (fun name => Path.proper_of_mem_steps) walked
  unfold origin
  split
  · exact fun name member => absurd member List.not_mem_nil
  · exact sound.start

/-- A proper name under a folder leads one step down from it. -/
theorem resolve_under {folder name : Text} {home : Place} (proper : Path.Proper name)
    (above : tree.resolve folder = .ok home)
    (leads : tree.resolve (Path.under folder name) = .ok place) : place = home ++ [name] := by
  obtain ⟨⟨some, -⟩, walked⟩ := resolve_eq_ok_iff.mp above
  obtain ⟨-, further⟩ := resolve_eq_ok_iff.mp leads
  have origin : tree.origin (Path.under folder name) = tree.origin folder := by
    rw [Tree.origin, Tree.origin, Path.isAbsolute_under some proper.whole]
  rw [origin, Path.steps_under some proper, walk_concat_eq_ok_iff] at further
  obtain ⟨found, again, -, rfl⟩ := further
  obtain rfl := Except.ok.inj (walked.symm.trans again)
  exact if_neg proper.down

end Tree

end Store

end IniKeeper
