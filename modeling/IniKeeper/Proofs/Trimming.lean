import IniKeeper.Text.Blank

/-!
# Trimming

Trimming removes white space from the two ends of a text and nothing else: what is left stands in
the text between two pieces of white space, trimming it again changes nothing, and white space
added at an end does not matter.
-/

namespace IniKeeper

namespace Text

/-- Nothing but white space. -/
def AllBlank (text : Text) : Prop := ∀ c ∈ text, isBlank c = true

/-- A text without white space at its ends. -/
def Trimmed (text : Text) : Prop := trim text = text

/-- The empty text has only white space. -/
theorem allBlank_nil : AllBlank [] := by
  intro c member
  simp at member

/-- The test for white space in every place decides `AllBlank`. -/
theorem all_isBlank_iff {text : Text} : text.all isBlank = true ↔ AllBlank text := by
  simp [AllBlank]

/-- A text has only white space when both of its parts do. -/
theorem allBlank_append {left right : Text} :
    AllBlank (left ++ right) ↔ AllBlank left ∧ AllBlank right := by
  simp [AllBlank, or_imp, forall_and]

/-- The front that `trimStart` removes is white space. -/
theorem exists_trimStart (text : Text) :
    ∃ before, AllBlank before ∧ text = before ++ trimStart text := by
  refine ⟨text.takeWhile isBlank, ?_, List.takeWhile_append_dropWhile.symm⟩
  exact all_isBlank_iff.mp List.all_takeWhile

/-- The end that `trimEnd` removes is white space. -/
theorem exists_trimEnd (text : Text) :
    ∃ after, AllBlank after ∧ text = trimEnd text ++ after := by
  obtain ⟨before, blank, split⟩ := exists_trimStart text.reverse
  refine ⟨before.reverse, fun c member => blank c (List.mem_reverse.mp member), ?_⟩
  have reversed := congrArg List.reverse split
  rw [List.reverse_reverse, List.reverse_append] at reversed
  exact reversed

/-- A text is its trimmed form between two pieces of white space. -/
theorem exists_trim (text : Text) :
    ∃ before after, AllBlank before ∧ AllBlank after ∧ text = before ++ trim text ++ after := by
  obtain ⟨before, beforeBlank, front⟩ := exists_trimStart text
  obtain ⟨after, afterBlank, back⟩ := exists_trimEnd (trimStart text)
  refine ⟨before, after, beforeBlank, afterBlank, ?_⟩
  rw [List.append_assoc]
  exact front.trans (congrArg (before ++ ·) back)

/-- White space in front does not matter to `trimStart`. -/
theorem trimStart_append {before : Text} (blank : AllBlank before) (text : Text) :
    trimStart (before ++ text) = trimStart text :=
  List.dropWhile_append_of_pos blank

/-- White space at the end does not matter to `trimEnd`. -/
theorem trimEnd_append {after : Text} (blank : AllBlank after) (text : Text) :
    trimEnd (text ++ after) = trimEnd text := by
  have reversed : ∀ c ∈ after.reverse, isBlank c = true :=
    fun c member => blank c (List.mem_reverse.mp member)
  rw [trimEnd, List.reverse_append, List.dropWhile_append_of_pos reversed, trimEnd]

/-- A text of white space has nothing that `trimStart` keeps. -/
theorem trimStart_of_allBlank {text : Text} (blank : AllBlank text) : trimStart text = [] := by
  have step := trimStart_append blank []
  rw [List.append_nil] at step
  exact step

/-- A text of white space has nothing that `trimEnd` keeps. -/
theorem trimEnd_of_allBlank {text : Text} (blank : AllBlank text) : trimEnd text = [] := by
  have step := trimEnd_append blank []
  rw [List.nil_append] at step
  exact step

/-- White space in front does not matter to trimming. -/
theorem trim_blank_append {before : Text} (blank : AllBlank before) (text : Text) :
    trim (before ++ text) = trim text := by
  rw [trim, trimStart_append blank, trim]

/-- White space at the end does not matter to trimming. -/
theorem trim_append_blank {after : Text} (blank : AllBlank after) (text : Text) :
    trim (text ++ after) = trim text := by
  have start : trimStart (text ++ after) =
      if (trimStart text).isEmpty then trimStart after else trimStart text ++ after :=
    List.dropWhile_append
  rw [trim, start, trim]
  by_cases empty : (trimStart text).isEmpty = true
  · rw [if_pos empty, trimStart_of_allBlank blank, List.isEmpty_iff.mp empty]
  · rw [if_neg empty, trimEnd_append blank]

/-- White space at both ends does not matter to trimming. -/
theorem trim_between {before after : Text} (beforeBlank : AllBlank before)
    (afterBlank : AllBlank after) (text : Text) : trim (before ++ text ++ after) = trim text := by
  rw [trim_append_blank afterBlank, trim_blank_append beforeBlank]

/-- A trimmed text is trimmed. -/
theorem trimmed_trim (text : Text) : Trimmed (trim text) := by
  obtain ⟨before, after, beforeBlank, afterBlank, split⟩ := exists_trim text
  have between := trim_between beforeBlank afterBlank (trim text)
  rw [← split] at between
  exact between.symm

/-- Trimming keeps nothing exactly of a text of white space. -/
theorem trim_eq_nil_iff {text : Text} : trim text = [] ↔ AllBlank text := by
  constructor
  · intro empty
    obtain ⟨before, after, beforeBlank, afterBlank, split⟩ := exists_trim text
    rw [split, empty, List.append_nil]
    exact allBlank_append.mpr ⟨beforeBlank, afterBlank⟩
  · intro blank
    rw [trim, trimStart_of_allBlank blank]
    rfl

/-- Trimming adds no character. -/
theorem mem_of_mem_trim {text : Text} {c : Char} (member : c ∈ trim text) : c ∈ text := by
  obtain ⟨before, after, -, -, split⟩ := exists_trim text
  rw [split]
  exact List.mem_append_left after (List.mem_append_right before member)

/-- What `trimEnd` leaves was there. -/
theorem mem_of_mem_trimEnd {text : Text} {c : Char} (member : c ∈ trimEnd text) : c ∈ text := by
  obtain ⟨after, -, split⟩ := exists_trimEnd text
  rw [split]
  exact List.mem_append_left after member

/-! ### Around a character that stays -/

/-- A text that begins with a character other than white space loses nothing at its start. -/
theorem trimStart_cons {c : Char} (solid : isBlank c = false) (rest : Text) :
    trimStart (c :: rest) = c :: rest := by
  simp [trimStart, solid]

/-- In front of a character other than white space, `trimStart` leaves what stands behind it. -/
theorem trimStart_append_cons {c : Char} (solid : isBlank c = false) (front rest : Text) :
    trimStart (front ++ c :: rest) = trimStart front ++ c :: rest := by
  have start : trimStart (front ++ c :: rest) =
      if (trimStart front).isEmpty then trimStart (c :: rest) else trimStart front ++ c :: rest :=
    List.dropWhile_append
  rw [start]
  by_cases empty : (trimStart front).isEmpty = true
  · rw [if_pos empty, trimStart_cons solid, List.isEmpty_iff.mp empty, List.nil_append]
  · rw [if_neg empty]

/-- Behind a character other than white space, `trimEnd` leaves what stands in front of it. -/
theorem trimEnd_append_cons {c : Char} (solid : isBlank c = false) (front rest : Text) :
    trimEnd (front ++ c :: rest) = front ++ c :: trimEnd rest := by
  have start := trimStart_append_cons solid rest.reverse front.reverse
  have turned : (front ++ c :: rest).reverse = rest.reverse ++ c :: front.reverse := by simp
  change ((front ++ c :: rest).reverse.dropWhile isBlank).reverse = _
  rw [turned, ← trimStart, start]
  simp [trimEnd, trimStart]

/-- Around a character other than white space, trimming works on each side alone. -/
theorem trim_append_cons {c : Char} (solid : isBlank c = false) (front rest : Text) :
    trim (front ++ c :: rest) = trimStart front ++ c :: trimEnd rest := by
  rw [trim, trimStart_append_cons solid, trimEnd_append_cons solid]

/-- What `trimStart` leaves is the trimmed text and white space behind it. -/
theorem exists_trimStart_eq (text : Text) :
    ∃ after, AllBlank after ∧ trimStart text = trim text ++ after :=
  exists_trimEnd (trimStart text)

/-- What `trimEnd` leaves is the trimmed text and white space in front of it. -/
theorem exists_trimEnd_eq (text : Text) :
    ∃ before, AllBlank before ∧ trimEnd text = before ++ trim text := by
  obtain ⟨before, blank, split⟩ := exists_trimStart text
  cases rest : trimStart text with
  | nil =>
    rw [rest, List.append_nil] at split
    refine ⟨[], allBlank_nil, ?_⟩
    rw [split, trimEnd_of_allBlank blank, trim_eq_nil_iff.mpr blank, List.append_nil]
  | cons c more =>
    have solid : isBlank c = false := by
      have head := List.head?_dropWhile_not isBlank text
      rw [show text.dropWhile isBlank = c :: more from rest] at head
      simpa using head
    refine ⟨before, blank, ?_⟩
    have inner : trimEnd (c :: more) = c :: trimEnd more := trimEnd_append_cons solid [] more
    rw [trim, rest, inner, split, rest, trimEnd_append_cons solid]

/-- Trimming the end first does not matter to trimming. -/
theorem trim_trimEnd (text : Text) : trim (trimEnd text) = trim text := by
  obtain ⟨before, blank, split⟩ := exists_trimEnd_eq text
  rw [split, trim_blank_append blank]
  exact trimmed_trim text

end Text

end IniKeeper
