import IniKeeper.Text.Lines

/-!
# Lines written and read

Lines that hold no line feed, each ended by one, are read back in order, less the carriage return
that each may have had at its end. Lines joined by line feeds are found again by cutting at them.
-/

namespace IniKeeper

namespace Text

/-- Lines one after the other, each ended by a line feed. -/
def endLines (rows : List Text) : Text := rows.flatMap fun row => row ++ ['\n']

/-- Ended lines of two lists stand one after the other. -/
theorem endLines_append (rows more : List Text) :
    endLines (rows ++ more) = endLines rows ++ endLines more :=
  List.flatMap_append

/-- The first of the ended lines comes first. -/
theorem endLines_cons (row : Text) (rows : List Text) :
    endLines (row :: rows) = row ++ '\n' :: endLines rows := by
  simp [endLines]

/-- Ended lines have as many line feeds as there are lines. -/
theorem count_endLines (rows : List Text) (clean : ∀ row ∈ rows, '\n' ∉ row) :
    (endLines rows).count '\n' = rows.length := by
  induction rows with
  | nil => rfl
  | cons row rows ih =>
    have none := List.count_eq_zero_of_not_mem (clean row List.mem_cons_self)
    have rest := ih fun other member => clean other (List.mem_cons_of_mem row member)
    rw [endLines_cons, List.count_append, List.count_cons_self, none, rest, List.length_cons]
    omega

/-- A piece between two characters at which a text is cut holds none. -/
theorem not_mem_of_mem_splitOn {mark : Char} {text piece : Text}
    (member : piece ∈ text.splitOn mark) : mark ∉ piece := by
  induction text generalizing piece with
  | nil =>
    rw [List.splitOn_nil, List.mem_singleton] at member
    simp [member]
  | cons c text ih =>
    rw [List.splitOn_cons_eq_if_modifyHead] at member
    split at member
    · rcases List.mem_cons.mp member with rfl | later
      · simp
      · exact ih later
    · rename_i other
      cases pieces : text.splitOn mark with
      | nil => exact absurd pieces (List.splitOn_ne_nil _ _)
      | cons first rest =>
        rw [pieces] at ih
        rw [pieces, List.modifyHead_cons] at member
        rcases List.mem_cons.mp member with rfl | later
        · have here : c ≠ mark := by simpa using other
          have inside := ih List.mem_cons_self
          simp [inside, here.symm]
        · exact ih (List.mem_cons_of_mem first later)

/-- Dropping a carriage return adds no character. -/
theorem mem_of_mem_dropReturn {piece : Text} {c : Char} (member : c ∈ dropReturn piece) :
    c ∈ piece := by
  unfold dropReturn at member
  split at member
  · exact List.dropLast_subset _ member
  · exact member

/-- A line of a text holds no line feed. -/
theorem not_mem_of_mem_lines {text row : Text} (member : row ∈ lines text) : '\n' ∉ row := by
  rcases List.mem_append.mp member with ended | last
  · obtain ⟨piece, inside, rfl⟩ := List.mem_map.mp ended
    intro feed
    exact not_mem_of_mem_splitOn (List.dropLast_subset _ inside) (mem_of_mem_dropReturn feed)
  · cases final : (text.splitOn '\n').getLast? with
    | none => simp [final, lastLine] at last
    | some piece =>
      have inside := not_mem_of_mem_splitOn (List.mem_of_getLast? final)
      cases piece with
      | nil => simp [final, lastLine] at last
      | cons c rest =>
        rw [final, Option.getD_some, lastLine, List.mem_singleton] at last
        · rw [last]
          exact inside
        · simp

/-- The first line of a text ends at its first line feed. -/
theorem lines_append_cons {row : Text} (clean : '\n' ∉ row) (rest : Text) :
    lines (row ++ '\n' :: rest) = dropReturn row :: lines rest := by
  have cut : (row ++ '\n' :: rest).splitOn '\n' = row :: rest.splitOn '\n' :=
    List.splitOn_append_cons_self_of_not_mem clean _
  cases pieces : rest.splitOn '\n' with
  | nil => exact absurd pieces (List.splitOn_ne_nil _ _)
  | cons first more =>
    simp only [lines, cut, pieces, List.dropLast_cons_cons, List.map_cons, List.getLast?_cons_cons,
      List.cons_append]

/-- Ended lines are read back, each less a carriage return at its end. -/
theorem lines_endLines (rows : List Text) (clean : ∀ row ∈ rows, '\n' ∉ row) :
    lines (endLines rows) = rows.map dropReturn := by
  induction rows with
  | nil => rfl
  | cons row rows ih =>
    rw [endLines_cons, lines_append_cons (clean row List.mem_cons_self), List.map_cons,
      ih fun other member => clean other (List.mem_cons_of_mem row member)]

/-- Cutting joined lines at their line feeds gives the lines. -/
theorem splitOn_joinLines {rows : List Text} (clean : ∀ row ∈ rows, '\n' ∉ row)
    (some : rows ≠ []) : (joinLines rows).splitOn '\n' = rows :=
  List.splitOn_intercalate '\n' clean some

/-- Joining the pieces between line feeds gives the text. -/
theorem joinLines_splitOn (text : Text) : joinLines (text.splitOn '\n') = text :=
  List.intercalate_splitOn '\n'

/-- Joined lines with a line feed behind them are the lines, each ended by one. -/
theorem joinLines_append_feed {rows : List Text} (some : rows ≠ []) :
    joinLines rows ++ ['\n'] = endLines rows := by
  induction rows with
  | nil => exact absurd rfl some
  | cons row rows ih =>
    cases rows with
    | nil => simp [joinLines, endLines]
    | cons next rows =>
      have rest := ih (List.cons_ne_nil next rows)
      have join : joinLines (row :: next :: rows) = row ++ '\n' :: joinLines (next :: rows) := by
        simp [joinLines, List.intercalate_cons_cons]
      rw [join, endLines_cons, ← rest]
      simp

end Text

end IniKeeper
