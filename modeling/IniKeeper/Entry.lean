import IniKeeper.Comment

/-!
# Entries

An entry is a key with a value and the comment block above it, or a comment block that stands on
its own. The latter is kept under a made-up key: the block's marker followed by a line number. No
key of a setting can begin with a marker, so the two kinds never share a key.
-/

namespace IniKeeper

/-- One element of a section. -/
structure Entry where
  /-- What the entry is looked up by. -/
  key : Text
  /-- The trimmed text after the equals sign, or none for a standalone comment. -/
  value : Option Text
  /-- The comment block above the key, or the standalone block itself. -/
  comment : Option Text
  deriving Repr, DecidableEq

namespace Entry

/-- An entry with a key and nothing else yet. -/
def new (key : Text) : Entry := ⟨key, none, none⟩

/-- The entry for a comment block that belongs to no key, found at a line. -/
def standalone (block : Text) (line : Nat) : Entry :=
  ⟨Comment.marker block :: Nat.toDigits 10 line, none, some block⟩

/-- Whether an entry is a standalone comment: its key begins with a marker. -/
def isStandalone (entry : Entry) : Bool :=
  match entry.key with
  | [] => false
  | c :: _ => Line.isMarker c

/-- The value of an entry, empty when it has none. -/
def valueText (entry : Entry) : Text := entry.value.getD []

/-- An entry made by `standalone` from a comment block is recognized as one. -/
theorem isStandalone_standalone (block : Text) (line : Nat) (valid : Comment.isBlock block = true) :
    (standalone block line).isStandalone = true := by
  cases block with
  | nil => simp [Comment.isBlock] at valid
  | cons marker rest =>
    have first : Line.isMarker marker = true := by
      have blocks : ((marker :: rest).splitOn '\n').all Line.isComment = true := by
        simpa [Comment.isBlock] using valid
      rw [List.splitOn_cons_eq_if_modifyHead] at blocks
      by_cases feed : (marker == '\n') = true
      · simp [feed, Line.isComment] at blocks
      · rw [if_neg feed] at blocks
        cases pieces : rest.splitOn '\n' with
        | nil => exact absurd pieces (List.splitOn_ne_nil _ _)
        | cons piece more =>
          cases piece with
          | nil => simp [pieces, Line.isComment] at blocks
          | cons gap tail =>
            simp only [pieces, List.modifyHead, List.all_cons, Line.isComment,
              Bool.and_eq_true] at blocks
            exact blocks.1.1.1
    simpa [standalone, isStandalone, Comment.marker] using first

end Entry

end IniKeeper
