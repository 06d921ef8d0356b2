import IniKeeper.Proofs.Places
import Mathlib.Data.List.Infix

/-!
# The ways of paths

Where a path leads is settled by its steps alone, once the folders on its way are there. So it can
be said where a path aims and which places it passes before anything is looked up in a tree. The way
to the folder above is part of the way, and a proper name under a folder adds one place to it.
-/

namespace IniKeeper

namespace Store

namespace Path

/-- Where a path is read from. -/
def origin (start : Place) (path : Text) : Place := if isAbsolute path then [] else start

/-- The place that a path aims at, whether it can be walked or not. -/
def aim (start : Place) (path : Text) : Place := (steps path).foldl Tree.step (origin start path)

/-- The places that a path passes, from where it is read to where it leads. -/
def way (start : Place) (path : Text) : List Place :=
  (steps path).inits.map fun front => front.foldl Tree.step (origin start path)

variable {start : Place} {path folder name : Text} {pieces : List Text}

/-- A path ends its way where it aims. -/
theorem aim_mem_way (start : Place) (path : Text) : aim start path ∈ way start path :=
  List.mem_map.mpr ⟨steps path, (List.mem_inits _ _).mpr List.prefix_rfl, rfl⟩

/-- A path that aims at a place leads there where it leads anywhere. -/
theorem aim_of_resolve {tree : Tree} {place : Place} (leads : tree.resolve path = .ok place) :
    aim tree.start path = place := by
  have walked : ∀ {home : Place} {steps : List Text}, tree.walk home steps = .ok place →
      steps.foldl Tree.step home = place := by
    intro home steps led
    induction steps generalizing home with
    | nil => exact Except.ok.inj led
    | cons name rest ih =>
      obtain ⟨-, further⟩ := Tree.walk_cons_eq_ok_iff.mp led
      exact ih further
  obtain ⟨-, led⟩ := Tree.resolve_eq_ok_iff.mp leads
  exact walked led

/-- The steps and the origin of a proper name under a folder are those of the folder, and the name
comes last. -/
theorem steps_and_origin_under (start : Place) (folder : Text) (proper : Proper name) :
    steps (under folder name) = steps folder ++ [name] ∧
      origin start (under folder name) = origin start folder := by
  by_cases some : folder = []
  · subst some
    have single : name.splitOn '/' = [name] := List.splitOn_eq_singleton proper.whole
    have whole : under [] name = name := by simp [under]
    have relative : isAbsolute name = isAbsolute [] := by
      cases name with
      | nil => rfl
      | cons c rest =>
        have other : c ≠ '/' := fun same => proper.whole (same ▸ List.mem_cons_self)
        simpa [isAbsolute] using other
    have kept : [name].filter isStep = [name] := by simp [proper.step]
    have none : steps [] = [] := by decide
    rw [whole, origin, origin, relative, none, steps, single, kept]
    exact ⟨rfl, rfl⟩
  · rw [origin, origin, isAbsolute_under some proper.whole, steps_under some proper]
    exact ⟨rfl, rfl⟩

/-- A proper name under a folder is a path. -/
theorem under_ne_nil (folder : Text) (proper : Proper name) : under folder name ≠ [] := by
  intro none
  have nothing : steps (under folder name) = [] := by
    rw [none]
    decide
  rw [(steps_and_origin_under [] folder proper).1] at nothing
  simp at nothing

/-- A proper name under a folder aims one step below the folder. -/
theorem aim_under (folder : Text) (proper : Proper name) :
    aim start (under folder name) = aim start folder ++ [name] := by
  obtain ⟨steps_under, origins⟩ := steps_and_origin_under start folder proper
  rw [aim, steps_under, origins, List.foldl_append]
  exact if_neg proper.down

/-- The way of a proper name under a folder is that of the folder and one place more. -/
theorem mem_way_under (folder : Text) (proper : Proper name) {place : Place} :
    place ∈ way start (under folder name) ↔
      place ∈ way start folder ∨ place = aim start folder ++ [name] := by
  obtain ⟨steps_under, origins⟩ := steps_and_origin_under start folder proper
  have last : Tree.step (aim start folder) name = aim start folder ++ [name] :=
    if_neg proper.down
  rw [way, steps_under, origins, ← last, List.inits_append]
  simp [way, aim, List.inits]

/-- A path that never leads up passes only what lies above the place at which it aims. -/
theorem prefix_of_mem_way (level : above ∉ steps path) {place : Place}
    (passed : place ∈ way start path) : place <+: aim start path := by
  have down : ∀ {home : Place} {names : List Text}, above ∉ names →
      names.foldl Tree.step home = home ++ names := by
    intro home names
    induction names generalizing home with
    | nil => exact fun _ => (List.append_nil home).symm
    | cons name rest ih =>
      intro level
      obtain ⟨other, others⟩ := List.ne_and_not_mem_of_not_mem_cons level
      rw [List.foldl_cons, Tree.step, if_neg other.symm, ih others, List.append_assoc]
      rfl
  obtain ⟨front, member, rfl⟩ := List.mem_map.mp passed
  have shorter := (List.mem_inits _ _).mp member
  rw [aim, down level, down fun up => level (shorter.subset up)]
  exact (List.prefix_append_right_inj _).mpr shorter

/-- Pieces that lead nowhere are no steps, so dropping them at the end changes no steps. -/
theorem filter_dropIdle (pieces : List Text) :
    (dropIdle pieces).filter isStep = pieces.filter isStep := by
  have idle : (pieces.reverse.takeWhile (!isStep ·)).filter isStep = [] := by
    refine List.filter_eq_nil_iff.mpr fun piece member step => ?_
    have leadsNowhere := List.all_eq_true.mp List.all_takeWhile piece member
    simp [step] at leadsNowhere
  have whole := congrArg (List.filter isStep)
    (List.takeWhile_append_dropWhile (p := (!isStep ·)) (l := pieces.reverse))
  rw [List.filter_append, idle, List.nil_append] at whole
  rw [dropIdle, List.filter_reverse, whole, List.filter_reverse, List.reverse_reverse]

/-- Pieces without those at the end that lead nowhere end in a step, if any are left. -/
theorem isStep_of_dropIdle {front : List Text} {last : Text}
    (left : dropIdle pieces = front ++ [last]) : isStep last = true := by
  have backwards : pieces.reverse.dropWhile (!isStep ·) = last :: front.reverse := by
    rw [dropIdle] at left
    have turned := congrArg List.reverse left
    simpa using turned
  have first := List.head?_dropWhile_not (!isStep ·) pieces.reverse
  rw [backwards] at first
  simpa using first

/-- The steps of pieces that were joined are those among the pieces. -/
theorem steps_join (whole : ∀ piece ∈ pieces, '/' ∉ piece) :
    steps (join pieces) = pieces.filter isStep := by
  cases pieces with
  | nil => rfl
  | cons first rest =>
    rw [steps, join, List.splitOn_intercalate '/' whole (List.cons_ne_nil first rest)]

/-- Pieces without the last step and what follows it have one step less. -/
theorem filter_dropIdle_dropLast (pieces : List Text) :
    (dropIdle (dropIdle pieces).dropLast).filter isStep = (pieces.filter isStep).dropLast := by
  rw [filter_dropIdle, ← filter_dropIdle pieces]
  rcases List.eq_nil_or_concat (dropIdle pieces) with none | ⟨front, last, left⟩
  · rw [none]
    rfl
  · rw [List.concat_eq_append] at left
    rw [left, List.dropLast_concat, List.filter_append]
    simp [isStep_of_dropIdle left]

/-- Pieces of which something is left have a step among them. -/
theorem filter_ne_nil_of_dropIdle (left : dropIdle pieces ≠ []) : pieces.filter isStep ≠ [] := by
  intro none
  rw [← filter_dropIdle] at none
  obtain ⟨front, last, ended⟩ := (List.eq_nil_or_concat _).resolve_left left
  rw [List.concat_eq_append] at ended
  rw [ended, List.filter_append] at none
  simp [isStep_of_dropIdle ended] at none

/-- The pieces that are left without the last step are pieces of the path. -/
theorem mem_of_mem_dropIdle_dropLast {piece : Text}
    (member : piece ∈ dropIdle (dropIdle pieces).dropLast) : piece ∈ pieces := by
  have part : ∀ {some : List Text}, piece ∈ dropIdle some → piece ∈ some := fun inside =>
    List.mem_reverse.mp ((List.dropWhile_sublist _).subset (List.mem_reverse.mp inside))
  exact part (List.dropLast_subset _ (part member))

/-- An absolute path has an empty piece first. -/
theorem splitOn_slash_cons (tail : Text) : ('/' :: tail).splitOn '/' = [] :: tail.splitOn '/' := by
  rw [← List.nil_append ('/' :: tail), List.splitOn_append_cons_self, List.splitOn_nil,
    List.singleton_append]

/-- A slash at the front is no step. -/
theorem steps_slash_cons (tail : Text) : steps ('/' :: tail) = steps tail := by
  rw [steps, splitOn_slash_cons, List.filter_cons_of_neg (by decide), steps]

/-- The folder above an absolute path is absolute and has its steps but the last. -/
theorem steps_of_parent?_of_absolute (absolute : isAbsolute path = true)
    (above : parent? path = some folder) :
    steps folder = (steps path).dropLast ∧ isAbsolute folder = true := by
  obtain ⟨tail, rfl⟩ : ∃ tail, path = '/' :: tail := by
    cases path with
    | nil => cases absolute
    | cons c tail => exact ⟨tail, by simpa [isAbsolute] using absolute⟩
  have inner : ∀ piece ∈ dropIdle (dropIdle (tail.splitOn '/')).dropLast, '/' ∉ piece :=
    fun piece member => Text.not_mem_of_mem_splitOn (mem_of_mem_dropIdle_dropLast member)
  rw [parent?, splitOn_slash_cons] at above
  dsimp only at above
  rw [if_pos List.isEmpty_nil] at above
  split at above
  · cases above
  · obtain rfl := Option.some.inj above
    refine ⟨?_, rfl⟩
    rw [steps_slash_cons, steps_slash_cons, steps_join inner, filter_dropIdle_dropLast, steps]

/-- The folder above a relative path, where it is not the empty path, is relative and has its steps
but the last. -/
theorem steps_of_parent?_of_relative (relative : isAbsolute path = false)
    (above : parent? path = some folder) (some : folder ≠ []) :
    steps folder = (steps path).dropLast ∧ isAbsolute folder = false := by
  have clean : ∀ piece ∈ path.splitOn '/', '/' ∉ piece :=
    fun piece member => Text.not_mem_of_mem_splitOn member
  have joined : join (path.splitOn '/') = path := List.intercalate_splitOn '/'
  rw [parent?] at above
  cases split : path.splitOn '/' with
  | nil => exact absurd split (List.splitOn_ne_nil '/' path)
  | cons first rest =>
    rw [split] at above clean joined
    dsimp only at above
    cases first with
    | nil =>
      -- A path that begins with an empty piece is empty or absolute.
      cases rest with
      | nil => cases above
      | cons next more =>
        rw [← joined] at relative
        cases relative
    | cons c more =>
      rw [if_neg (by simp)] at above
      split at above
      · exact absurd (Option.some.inj above).symm some
      · rename_i left
        obtain rfl := Option.some.inj above
        have someStep := filter_ne_nil_of_dropIdle (mt List.isEmpty_iff.mpr left)
        have pieces : ∀ piece ∈ (c :: more) :: dropIdle (dropIdle rest).dropLast,
            '/' ∉ piece := by
          intro piece member
          rcases List.mem_cons.mp member with rfl | later
          · exact clean _ List.mem_cons_self
          · exact clean _ (List.mem_cons_of_mem _ (mem_of_mem_dropIdle_dropLast later))
        have heads : ∀ others : List Text,
            (join ((c :: more) :: others)).head? = Option.some c := by
          intro others
          cases others <;> simp [join, List.intercalate_cons_cons]
        constructor
        · rw [steps_join pieces, steps, split, List.filter_cons, filter_dropIdle_dropLast,
            List.filter_cons]
          split
          · rw [List.dropLast_cons_of_ne_nil someStep]
          · rfl
        · rw [← relative, isAbsolute, isAbsolute, heads, ← joined, heads]

/-- The folder above has the steps of a path but the last. -/
theorem steps_of_parent? (above : parent? path = some folder) (some : folder ≠ []) :
    steps folder = (steps path).dropLast ∧ isAbsolute folder = isAbsolute path := by
  cases absolute : isAbsolute path with
  | true => exact steps_of_parent?_of_absolute absolute above
  | false => exact steps_of_parent?_of_relative absolute above some

/-- The way to the folder above is part of the way. -/
theorem way_parent? (above : parent? path = some folder) (some : folder ≠ []) {place : Place}
    (passed : place ∈ way start folder) : place ∈ way start path := by
  obtain ⟨steps_folder, absolute⟩ := steps_of_parent? above some
  obtain ⟨front, member, rfl⟩ := List.mem_map.mp passed
  have shorter := (List.mem_inits _ _).mp member
  rw [steps_folder] at shorter
  refine List.mem_map.mpr
    ⟨front, (List.mem_inits _ _).mpr (shorter.trans (List.dropLast_prefix _)), ?_⟩
  rw [origin, origin, absolute]

end Path

end Store

end IniKeeper
