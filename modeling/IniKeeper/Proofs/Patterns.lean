import IniKeeper.Text

/-!
# Patterns of text

A pattern says of which characters a text consists, one after the other, and which parts of the text
are kept under a name. The ways to use up a text are tried in a fixed order: of two alternatives the
first one before the second, and a repetition with as many characters as it can have before it has
fewer. The match is the first way in this order that uses up the whole text. What a pattern spells
is said without any order; a match is always something that the pattern spells, and where it spells
a text in one way only, the order does not matter.
-/

namespace IniKeeper

/-- A pattern that keeps parts of a text under names. -/
inductive Pattern (ν : Type) where
  /-- One character of a class. -/
  | one (allowed : Char → Bool)
  /-- Any number of characters of a class. -/
  | many (allowed : Char → Bool)
  /-- One pattern and another behind it. -/
  | chain (first next : Pattern ν)
  /-- One pattern or, where it is of no use, another. -/
  | either (first second : Pattern ν)
  /-- A pattern whose text is kept under a name. -/
  | keep (name : ν) (inner : Pattern ν)

namespace Pattern

variable {ν : Type}

/-- At least one character of a class. -/
def several (allowed : Char → Bool) : Pattern ν := chain (one allowed) (many allowed)

/-! ### Trying a pattern -/

/-- A way to use up the front of a text. -/
structure Way (ν : Type) where
  /-- The front that is used up. -/
  front : Text
  /-- The parts that are kept, in the order in which they begin. -/
  parts : List (ν × Text)
  /-- What is left of the text. -/
  rest : Text

/-- The ways to use up characters of a class, with the most characters first. -/
def runs (allowed : Char → Bool) : Text → List (Way ν)
  | [] => [⟨[], [], []⟩]
  | c :: rest =>
    let longer := (runs allowed rest).map fun way => { way with front := c :: way.front }
    (if allowed c then longer else []) ++ [⟨[], [], c :: rest⟩]

/-- The ways to use up the front of a text, in the order in which they are tried. -/
def ways : Pattern ν → Text → List (Way ν)
  | one _, [] => []
  | one allowed, c :: rest => if allowed c then [⟨[c], [], rest⟩] else []
  | many allowed, text => runs allowed text
  | chain first next, text =>
    (first.ways text).flatMap fun way =>
      (next.ways way.rest).map fun further =>
        ⟨way.front ++ further.front, way.parts ++ further.parts, further.rest⟩
  | either first second, text => first.ways text ++ second.ways text
  | keep name inner, text =>
    (inner.ways text).map fun way => { way with parts := (name, way.front) :: way.parts }

/-- The parts that the first way to use up the whole text keeps. -/
def match? (pattern : Pattern ν) (text : Text) : Option (List (ν × Text)) :=
  ((pattern.ways text).find? fun way => way.rest.isEmpty).map Way.parts

/-! ### What a pattern spells -/

/-- Whether a pattern spells a text, with the parts of it that are then kept. -/
inductive Spells : Pattern ν → Text → List (ν × Text) → Prop where
  /-- A character of the class. -/
  | one {allowed : Char → Bool} {c : Char} (member : allowed c = true) : Spells (one allowed) [c] []
  /-- A text of characters of the class. -/
  | many {allowed : Char → Bool} {text : Text} (members : ∀ c ∈ text, allowed c = true) :
      Spells (many allowed) text []
  /-- A text of the one pattern and a text of the other behind it. -/
  | chain {first next : Pattern ν} {front rest : Text} {parts more : List (ν × Text)}
      (begins : Spells first front parts) (ends : Spells next rest more) :
      Spells (chain first next) (front ++ rest) (parts ++ more)
  /-- A text of the first alternative. -/
  | left {first second : Pattern ν} {text : Text} {parts : List (ν × Text)}
      (spells : Spells first text parts) : Spells (either first second) text parts
  /-- A text of the second alternative. -/
  | right {first second : Pattern ν} {text : Text} {parts : List (ν × Text)}
      (spells : Spells second text parts) : Spells (either first second) text parts
  /-- A text of the pattern inside, which is kept. -/
  | keep {name : ν} {inner : Pattern ν} {text : Text} {parts : List (ν × Text)}
      (spells : Spells inner text parts) : Spells (keep name inner) text ((name, text) :: parts)

section Spells

variable {allowed : Char → Bool} {first next second inner : Pattern ν} {name : ν} {text : Text}
  {parts : List (ν × Text)}

/-- One character of a class is spelled by just that. -/
theorem spells_one_iff :
    (one allowed).Spells text parts ↔ ∃ c, allowed c = true ∧ text = [c] ∧ parts = [] := by
  constructor
  · intro spells
    cases spells with
    | one member => exact ⟨_, member, rfl, rfl⟩
  · rintro ⟨c, member, rfl, rfl⟩
    exact .one member

/-- A repetition spells the texts of its class. -/
theorem spells_many_iff :
    (many allowed).Spells text parts ↔ (∀ c ∈ text, allowed c = true) ∧ parts = [] := by
  constructor
  · intro spells
    cases spells with
    | many members => exact ⟨members, rfl⟩
  · rintro ⟨members, rfl⟩
    exact .many members

/-- What a chain spells is cut into what its two patterns spell. -/
theorem spells_chain_iff :
    (chain first next).Spells text parts ↔
      ∃ front rest mine more, first.Spells front mine ∧ next.Spells rest more ∧
        text = front ++ rest ∧ parts = mine ++ more := by
  constructor
  · intro spells
    cases spells with
    | chain begins ends => exact ⟨_, _, _, _, begins, ends, rfl, rfl⟩
  · rintro ⟨front, rest, mine, more, begins, ends, rfl, rfl⟩
    exact .chain begins ends

/-- Two alternatives spell what one of them spells. -/
theorem spells_either_iff :
    (either first second).Spells text parts ↔
      first.Spells text parts ∨ second.Spells text parts := by
  constructor
  · intro spells
    cases spells with
    | left spells => exact .inl spells
    | right spells => exact .inr spells
  · rintro (spells | spells)
    · exact .left spells
    · exact .right spells

/-- What is kept is the whole text, with what was kept of it before. -/
theorem spells_keep_iff :
    (keep name inner).Spells text parts ↔
      ∃ more, inner.Spells text more ∧ parts = (name, text) :: more := by
  constructor
  · intro spells
    cases spells with
    | keep spells => exact ⟨_, spells, rfl⟩
  · rintro ⟨more, spells, rfl⟩
    exact .keep spells

/-- With one character in front, that character is the first of the text. -/
theorem spells_one_chain_iff :
    (chain (one allowed) next).Spells text parts ↔
      ∃ c rest, allowed c = true ∧ next.Spells rest parts ∧ text = c :: rest := by
  rw [spells_chain_iff]
  constructor
  · rintro ⟨front, rest, mine, more, begins, ends, rfl, rfl⟩
    obtain ⟨c, member, rfl, rfl⟩ := spells_one_iff.mp begins
    exact ⟨c, rest, member, ends, rfl⟩
  · rintro ⟨c, rest, member, ends, rfl⟩
    exact ⟨[c], rest, [], parts, .one member, ends, rfl, rfl⟩

/-- With a repetition in front, the text begins with characters of the class. -/
theorem spells_many_chain_iff :
    (chain (many allowed) next).Spells text parts ↔
      ∃ front rest, (∀ c ∈ front, allowed c = true) ∧ next.Spells rest parts ∧
        text = front ++ rest := by
  rw [spells_chain_iff]
  constructor
  · rintro ⟨front, rest, mine, more, begins, ends, rfl, rfl⟩
    obtain ⟨members, rfl⟩ := spells_many_iff.mp begins
    exact ⟨front, rest, members, ends, rfl⟩
  · rintro ⟨front, rest, members, ends, rfl⟩
    exact ⟨front, rest, [], parts, .many members, ends, rfl, rfl⟩

/-- At least one character of a class spells the texts of the class but for the empty one. -/
theorem spells_several_iff :
    (several allowed).Spells text parts ↔
      text ≠ [] ∧ (∀ c ∈ text, allowed c = true) ∧ parts = [] := by
  rw [several, spells_one_chain_iff]
  constructor
  · rintro ⟨c, rest, member, others, rfl⟩
    obtain ⟨members, rfl⟩ := spells_many_iff.mp others
    exact ⟨List.cons_ne_nil c rest, List.forall_mem_cons.mpr ⟨member, members⟩, rfl⟩
  · rintro ⟨filled, members, rfl⟩
    cases text with
    | nil => exact absurd rfl filled
    | cons c rest =>
      obtain ⟨member, others⟩ := List.forall_mem_cons.mp members
      exact ⟨c, rest, member, .many others, rfl⟩

/-- What is kept in front comes first among the parts. -/
theorem spells_keep_chain_iff :
    (chain (keep name inner) next).Spells text parts ↔
      ∃ front rest mine more, inner.Spells front mine ∧ next.Spells rest more ∧
        text = front ++ rest ∧ parts = (name, front) :: (mine ++ more) := by
  rw [spells_chain_iff]
  constructor
  · rintro ⟨front, rest, kept, more, begins, ends, rfl, rfl⟩
    obtain ⟨mine, inside, rfl⟩ := spells_keep_iff.mp begins
    exact ⟨front, rest, mine, more, inside, ends, rfl, rfl⟩
  · rintro ⟨front, rest, mine, more, inside, ends, rfl, rfl⟩
    exact ⟨front, rest, (name, front) :: mine, more, .keep inside, ends, rfl, rfl⟩

end Spells

/-! ### Trying finds what is spelled -/

/-- The ways to use up characters of a class cut a text behind such characters. -/
theorem mem_runs_iff {allowed : Char → Bool} {text front rest : Text} {parts : List (ν × Text)} :
    ⟨front, parts, rest⟩ ∈ runs allowed text ↔
      (∀ c ∈ front, allowed c = true) ∧ parts = [] ∧ text = front ++ rest := by
  induction text generalizing front with
  | nil =>
    have whole : [] = front ++ rest ↔ front = [] ∧ rest = [] := by
      rw [eq_comm, List.append_eq_nil_iff]
    rw [runs, List.mem_singleton, Way.mk.injEq, whole]
    constructor
    · rintro ⟨rfl, rfl, rfl⟩
      exact ⟨fun c none => absurd none List.not_mem_nil, rfl, rfl, rfl⟩
    · rintro ⟨-, rfl, rfl, rfl⟩
      exact ⟨rfl, rfl, rfl⟩
  | cons c text ih =>
    rw [runs, List.mem_append, List.mem_singleton, Way.mk.injEq]
    constructor
    · rintro (longer | ⟨rfl, rfl, rfl⟩)
      · split at longer
        · rename_i member
          obtain ⟨⟨shorter, others, behind⟩, inside, same⟩ := List.mem_map.mp longer
          obtain ⟨rfl, rfl, rfl⟩ := Way.mk.inj same
          obtain ⟨members, none, cut⟩ := ih.mp inside
          exact ⟨List.forall_mem_cons.mpr ⟨member, members⟩, none, congrArg (c :: ·) cut⟩
        · exact absurd longer List.not_mem_nil
      · exact ⟨fun d none => absurd none List.not_mem_nil, rfl, rfl⟩
    · rintro ⟨members, rfl, whole⟩
      cases front with
      | nil => exact .inr ⟨rfl, rfl, whole.symm⟩
      | cons d front =>
        obtain ⟨rfl, behind⟩ := List.cons.inj whole
        obtain ⟨member, others⟩ := List.forall_mem_cons.mp members
        have inside : (⟨front, [], rest⟩ : Way ν) ∈ runs allowed text :=
          ih.mpr ⟨others, rfl, behind⟩
        rw [if_pos member]
        exact .inl (List.mem_map.mpr ⟨_, inside, rfl⟩)

/-- The ways to use up the front of a text are the cuts of it behind what the pattern spells. -/
theorem mem_ways_iff {pattern : Pattern ν} {text front rest : Text} {parts : List (ν × Text)} :
    ⟨front, parts, rest⟩ ∈ pattern.ways text ↔
      pattern.Spells front parts ∧ text = front ++ rest := by
  induction pattern generalizing text front parts rest with
  | one allowed =>
    rw [spells_one_iff]
    cases text with
    | nil =>
      constructor
      · exact fun none => absurd none List.not_mem_nil
      · rintro ⟨⟨c, -, rfl, -⟩, whole⟩
        contradiction
    | cons c text =>
      rw [ways]
      constructor
      · intro tried
        split at tried
        · rename_i member
          obtain ⟨rfl, rfl, rfl⟩ := Way.mk.inj (List.mem_singleton.mp tried)
          exact ⟨⟨c, member, rfl, rfl⟩, rfl⟩
        · exact absurd tried List.not_mem_nil
      · rintro ⟨⟨d, member, rfl, rfl⟩, whole⟩
        obtain ⟨rfl, rfl⟩ := List.cons.inj whole
        rw [if_pos member]
        exact List.mem_singleton.mpr rfl
  | many allowed =>
    rw [ways, mem_runs_iff, spells_many_iff, and_assoc]
  | chain first next firstIh nextIh =>
    rw [ways, List.mem_flatMap, spells_chain_iff]
    constructor
    · rintro ⟨⟨begun, mine, between⟩, tried, further⟩
      obtain ⟨⟨ended, more, behind⟩, followed, same⟩ := List.mem_map.mp further
      obtain ⟨rfl, rfl, rfl⟩ := Way.mk.inj same
      obtain ⟨begins, rfl⟩ := firstIh.mp tried
      obtain ⟨ends, cut⟩ := nextIh.mp followed
      dsimp only at cut
      refine ⟨⟨begun, ended, mine, more, begins, ends, rfl, rfl⟩, ?_⟩
      rw [cut, List.append_assoc]
    · rintro ⟨⟨begun, ended, mine, more, begins, ends, rfl, rfl⟩, rfl⟩
      have tried : ⟨begun, mine, ended ++ rest⟩ ∈ first.ways (begun ++ ended ++ rest) :=
        firstIh.mpr ⟨begins, List.append_assoc begun ended rest⟩
      have followed : ⟨ended, more, rest⟩ ∈ next.ways (ended ++ rest) := nextIh.mpr ⟨ends, rfl⟩
      exact ⟨_, tried, List.mem_map.mpr ⟨_, followed, rfl⟩⟩
  | either first second firstIh secondIh =>
    rw [ways, List.mem_append, firstIh, secondIh, spells_either_iff, or_and_right]
  | keep name inner ih =>
    rw [ways, List.mem_map, spells_keep_iff]
    constructor
    · rintro ⟨⟨used, others, behind⟩, tried, same⟩
      obtain ⟨rfl, rfl, rfl⟩ := Way.mk.inj same
      obtain ⟨spells, cut⟩ := ih.mp tried
      exact ⟨⟨others, spells, rfl⟩, cut⟩
    · rintro ⟨⟨others, spells, rfl⟩, cut⟩
      have tried : ⟨front, others, rest⟩ ∈ inner.ways text := ih.mpr ⟨spells, cut⟩
      exact ⟨_, tried, rfl⟩

/-! ### The match -/

section Match

variable {pattern first second : Pattern ν} {text : Text} {parts : List (ν × Text)}

/-- The ways that use up the whole text keep what the pattern spells. -/
theorem exists_way_iff :
    (∃ way ∈ pattern.ways text, way.rest.isEmpty = true ∧ way.parts = parts) ↔
      pattern.Spells text parts := by
  constructor
  · rintro ⟨⟨front, found, rest⟩, tried, whole, rfl⟩
    obtain ⟨spells, cut⟩ := mem_ways_iff.mp tried
    obtain rfl : rest = [] := List.isEmpty_iff.mp whole
    rw [List.append_nil] at cut
    exact cut ▸ spells
  · intro spells
    have tried : ⟨text, parts, []⟩ ∈ pattern.ways text :=
      mem_ways_iff.mpr ⟨spells, (List.append_nil text).symm⟩
    exact ⟨_, tried, rfl, rfl⟩

/-- A match is something that the pattern spells. -/
theorem spells_of_match? (found : pattern.match? text = some parts) :
    pattern.Spells text parts := by
  obtain ⟨way, first, kept⟩ := Option.map_eq_some_iff.mp found
  have tried : way ∈ pattern.ways text := List.mem_of_find?_eq_some first
  have whole := List.find?_some first
  exact exists_way_iff.mp ⟨way, tried, whole, kept⟩

/-- There is no match only where the pattern does not spell the text. -/
theorem match?_eq_none_iff : pattern.match? text = none ↔ ∀ parts, ¬ pattern.Spells text parts := by
  constructor
  · intro nothing parts spells
    obtain ⟨way, tried, whole, -⟩ := exists_way_iff.mpr spells
    rw [match?, Option.map_eq_none_iff, List.find?_eq_none] at nothing
    exact nothing way tried whole
  · intro unspelled
    cases found : pattern.match? text with
    | none => rfl
    | some parts => exact absurd (spells_of_match? found) (unspelled parts)

/-- Of two alternatives the second is matched only where the first is not. -/
theorem match?_either :
    (either first second).match? text = (first.match? text).or (second.match? text) := by
  unfold match?
  rw [ways, List.find?_append]
  cases (first.ways text).find? fun way => way.rest.isEmpty <;> rfl

/-- Whether a pattern spells each text in at most one way. -/
def Unambiguous (pattern : Pattern ν) : Prop :=
  ∀ text parts more, pattern.Spells text parts → pattern.Spells text more → parts = more

/-- Where a pattern spells a text in one way only, this is the match. -/
theorem Unambiguous.match?_eq_some_iff (single : pattern.Unambiguous) :
    pattern.match? text = some parts ↔ pattern.Spells text parts := by
  refine ⟨spells_of_match?, fun spells => ?_⟩
  cases found : pattern.match? text with
  | none => exact absurd spells (match?_eq_none_iff.mp found parts)
  | some more =>
    have same : more = parts := single text more parts (spells_of_match? found) spells
    exact congrArg some same

end Match

end Pattern

end IniKeeper
