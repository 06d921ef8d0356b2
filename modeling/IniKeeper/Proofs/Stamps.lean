import IniKeeper.Proofs.Shelves
import Mathlib.Algebra.Group.Nat.Defs

/-!
# Stamps sort as instants do

A stamp consists of fields of fixed widths, the most significant first, so comparing two stamps as
texts compares the fields one after the other, and these order the instants: a later day has a later
date, whatever the lengths of months and years between them, and within a day the time of day
decides. This holds as long as the year has at most four digits.
-/

namespace IniKeeper

/-! ### Texts of one width -/

/-- Texts that begin with parts of one length are compared by these parts, and by the rest where the
parts are equal. -/
theorem Text.append_lt_append_iff {front other : Text} (width : front.length = other.length)
    {rest more : Text} :
    front ++ rest < other ++ more ↔ front < other ∨ front = other ∧ rest < more := by
  induction front generalizing other with
  | nil =>
    have empty : other = [] := List.eq_nil_of_length_eq_zero width.symm
    subst empty
    simp
  | cons c front ih =>
    cases other with
    | nil => simp at width
    | cons d other =>
      have shorter : front.length = other.length := Nat.succ.inj width
      rw [List.cons_append, List.cons_append, List.cons_lt_cons_iff, List.cons_lt_cons_iff,
        ih shorter, List.cons.injEq]
      tauto

/-! ### Days and dates -/

namespace Calendar

/-- A leap year has a day more than other years. -/
theorem daysBefore_succ (year : Nat) :
    daysBefore (year + 1) = daysBefore year + if isLeap year then 366 else 365 := by
  have leap : isLeap year = true ↔ year % 4 = 0 ∧ (year % 100 ≠ 0 ∨ year % 400 = 0) := by
    simp [isLeap]
  have fours : (year + 1 + 3) / 4 = (year + 3) / 4 + if year % 4 = 0 then 1 else 0 := by
    split <;> omega
  have hundreds : (year + 1 + 99) / 100 = (year + 99) / 100 + if year % 100 = 0 then 1 else 0 := by
    split <;> omega
  have cycles : (year + 1 + 399) / 400 = (year + 399) / 400 + if year % 400 = 0 then 1 else 0 := by
    split <;> omega
  have fewer : (year + 99) / 100 ≤ year := by omega
  have nested : (year % 400 = 0 → year % 100 = 0) ∧ (year % 100 = 0 → year % 4 = 0) := by omega
  unfold daysBefore
  rw [fours, hundreds, cycles]
  clear fours hundreds cycles
  generalize (year + 3) / 4 = fourth
  generalize (year + 399) / 400 = last
  generalize (year + 99) / 100 = hundredth at fewer ⊢
  by_cases longer : isLeap year = true
  · have rule := leap.mp longer
    rw [if_pos longer]
    split <;> split <;> split <;> omega
  · have rule := mt leap.mpr longer
    rw [if_neg longer]
    split <;> split <;> split <;> omega

/-- The days before a year are never far from what they are on average, 146097 in 400 years. -/
theorem daysBefore_near (year : Nat) :
    146097 * year ≤ 400 * daysBefore year + 396 ∧ 400 * daysBefore year ≤ 146097 * year + 699 := by
  unfold daysBefore
  omega

/-- A later year begins later. -/
theorem daysBefore_mono {year other : Nat} (later : year ≤ other) :
    daysBefore year ≤ daysBefore other := by
  induction later with
  | refl => exact Nat.le_refl _
  | step _ ih =>
    rw [daysBefore_succ]
    omega

/-- A day lies in its year. -/
theorem mem_yearOf (day : Nat) :
    daysBefore (yearOf day) ≤ day ∧ day < daysBefore (yearOf day + 1) := by
  have below : day * 400 / 146097 * 146097 ≤ day * 400 := Nat.div_mul_le_self _ _
  have above : day * 400 < (day * 400 / 146097 + 1) * 146097 :=
    Nat.lt_mul_of_div_lt (Nat.lt_succ_self _) (by decide)
  unfold yearOf
  generalize day * 400 / 146097 = guess at below above ⊢
  dsimp only
  split
  · rename_i late
    have next := daysBefore_near (guess + 1 + 1)
    omega
  · rename_i early
    split
    · rename_i tooLate
      cases guess with
      | zero => exact absurd tooLate (Nat.not_lt_zero day)
      | succ guess =>
        have before := daysBefore_near guess
        rw [Nat.add_sub_cancel]
        omega
    · rename_i within
      omega

/-- A later day lies in a later year or in the same. -/
theorem yearOf_mono {day other : Nat} (later : day ≤ other) : yearOf day ≤ yearOf other := by
  by_contra wrong
  have before : yearOf other + 1 ≤ yearOf day := by omega
  have start := daysBefore_mono before
  have first := (mem_yearOf day).1
  have second := (mem_yearOf other).2
  omega

/-- Where counting months begins is where it ends at the earliest. -/
theorem le_month (month day : Nat) (lengths : List Nat) :
    month ≤ (monthAndDay month day lengths).1 := by
  induction lengths generalizing month day with
  | nil => exact Nat.le_refl month
  | cons length rest ih =>
    unfold monthAndDay
    split
    · exact Nat.le_refl month
    · exact Nat.le_of_succ_le (ih (month + 1) (day - length))

/-- A later day lies in a later month, or is a later day of the same month. -/
theorem monthAndDay_lt {month day other : Nat} {lengths : List Nat} (later : day < other) :
    (monthAndDay month day lengths).1 < (monthAndDay month other lengths).1 ∨
      (monthAndDay month day lengths).1 = (monthAndDay month other lengths).1 ∧
        (monthAndDay month day lengths).2 < (monthAndDay month other lengths).2 := by
  induction lengths generalizing month day other with
  | nil => exact .inr ⟨rfl, Nat.succ_lt_succ later⟩
  | cons length rest ih =>
    unfold monthAndDay
    by_cases here : other < length
    · have both : day < length := Nat.lt_trans later here
      rw [if_pos here, if_pos both]
      exact .inr ⟨rfl, Nat.succ_lt_succ later⟩
    · by_cases first : day < length
      · rw [if_neg here, if_pos first]
        exact .inl (le_month (month + 1) (other - length) rest)
      · rw [if_neg here, if_neg first]
        have still : day - length < other - length := by omega
        exact ih still

/-- Within the months that are given, a day lies in one of them and is at most the thirty-first if
none is longer. -/
theorem monthAndDay_bounds {month day : Nat} {lengths : List Nat}
    (short : ∀ length ∈ lengths, length ≤ 31) (within : day < lengths.foldr (· + ·) 0) :
    (monthAndDay month day lengths).1 < month + lengths.length ∧
      (monthAndDay month day lengths).2 ≤ 31 := by
  induction lengths generalizing month day with
  | nil => exact absurd within (Nat.not_lt_zero day)
  | cons length rest ih =>
    rw [List.foldr_cons] at within
    unfold monthAndDay
    by_cases here : day < length
    · have most := short length List.mem_cons_self
      rw [if_pos here, List.length_cons]
      exact ⟨by omega, by omega⟩
    · have left : day - length < rest.foldr (· + ·) 0 := by omega
      obtain ⟨later, most⟩ :=
        @ih (month + 1) (day - length)
          (fun other member => short other (List.mem_cons_of_mem _ member))
          left
      rw [if_neg here, List.length_cons]
      exact ⟨by omega, most⟩

/-- The months of a year make up the year. -/
theorem daysBefore_succ_eq_foldr (year : Nat) :
    daysBefore (year + 1) = daysBefore year + (monthLengths year).foldr (· + ·) 0 := by
  rw [daysBefore_succ]
  cases leap : isLeap year <;> simp [monthLengths, leap]

/-- A later day has a later date. -/
theorem date_lt {day other : Nat} (later : day < other) :
    (date day).1 < (date other).1 ∨ (date day).1 = (date other).1 ∧
      ((date day).2.1 < (date other).2.1 ∨ (date day).2.1 = (date other).2.1 ∧
        (date day).2.2 < (date other).2.2) := by
  unfold date
  dsimp only
  rcases Nat.lt_or_eq_of_le (yearOf_mono (Nat.le_of_lt later)) with before | same
  · exact .inl before
  · have start := (mem_yearOf day).1
    have still : day - daysBefore (yearOf day) < other - daysBefore (yearOf day) := by omega
    rw [← same]
    exact .inr ⟨rfl, monthAndDay_lt still⟩

/-- The month and the day of a date have two digits at most. -/
theorem date_bounds (day : Nat) : (date day).2.1 < 100 ∧ (date day).2.2 < 100 := by
  obtain ⟨first, last⟩ := mem_yearOf day
  rw [daysBefore_succ_eq_foldr] at last
  have short : ∀ length ∈ monthLengths (yearOf day), length ≤ 31 := by
    cases leap : isLeap (yearOf day) <;> simp [monthLengths, leap]
  have within : day - daysBefore (yearOf day) <
      (monthLengths (yearOf day)).foldr (· + ·) 0 := by omega
  obtain ⟨month, most⟩ := @monthAndDay_bounds 1 _ _ short within
  have twelve : (monthLengths (yearOf day)).length = 12 := rfl
  unfold date
  dsimp only
  omega

end Calendar

/-! ### Fields -/

namespace Instant

/-- A wider field holds a narrower one and one more digit. -/
theorem field_succ {width : Nat} (some : 0 < width) (n : Nat) :
    field (width + 1) n = field width (n / 10) ++ [Nat.digitChar (n % 10)] := by
  obtain ⟨fewer, rfl⟩ := Nat.exists_eq_add_one.mpr some
  unfold field
  rw [Nat.toDigits_eq_if (by decide) (n := n)]
  by_cases single : n < 10
  · have zero : n / 10 = 0 := Nat.div_eq_of_lt single
    have digit : n % 10 = n := Nat.mod_eq_of_lt single
    have none : Nat.toDigits 10 0 = ['0'] := rfl
    rw [if_pos single, zero, digit, none]
    simp [List.replicate_succ', List.append_assoc]
  · rw [if_neg single]
    simp [List.append_assoc]

/-- A number that fits into a field fills it. -/
theorem length_field {width n : Nat} (some : 0 < width) (fits : n < 10 ^ width) :
    (field width n).length = width := by
  have digits := (Nat.length_toDigits_le_iff (by decide) some).mpr fits
  simp only [field, List.length_append, List.length_replicate]
  omega

/-- Digits sort as their values do. -/
theorem digitChar_lt_iff {m n : Nat} (first : m < 10) (second : n < 10) :
    Nat.digitChar m < Nat.digitChar n ↔ m < n := by
  have all : ∀ m : Fin 10, ∀ n : Fin 10,
      (Nat.digitChar m.val < Nat.digitChar n.val ↔ m.val < n.val) := by decide
  exact all ⟨m, first⟩ ⟨n, second⟩

/-- Fields of one width sort as their numbers do. -/
theorem field_lt_iff {width m n : Nat} (some : 0 < width) (first : m < 10 ^ width)
    (second : n < 10 ^ width) : field width m < field width n ↔ m < n := by
  obtain ⟨fewer, rfl⟩ := Nat.exists_eq_add_one.mpr some
  -- The induction drops the last digits, down to fields of a single one.
  induction fewer generalizing m n with
  | zero =>
    have single : ∀ k, k < 10 → field (0 + 1) k = [Nat.digitChar k] := by
      intro k small
      simp [field, Nat.toDigits_of_lt_base small]
    rw [single m first, single n second, List.cons_lt_cons_iff, digitChar_lt_iff first second]
    simp
  | succ width ih =>
    have front : m / 10 < 10 ^ (width + 1) := by
      rw [Nat.pow_succ] at first
      omega
    have other : n / 10 < 10 ^ (width + 1) := by
      rw [Nat.pow_succ] at second
      omega
    have less := ih (Nat.succ_pos width) front other
    have greater := ih (Nat.succ_pos width) other front
    have same : field (width + 1) (m / 10) = field (width + 1) (n / 10) ↔ m / 10 = n / 10 := by
      refine ⟨fun equal => ?_, fun equal => by rw [equal]⟩
      rw [equal] at less greater
      have notLess := mt less.mpr (List.lt_irrefl _)
      have notGreater := mt greater.mpr (List.lt_irrefl _)
      omega
    have digits := digitChar_lt_iff (Nat.mod_lt m (by decide)) (Nat.mod_lt n (by decide))
    have widths : (field (width + 1) (m / 10)).length = (field (width + 1) (n / 10)).length := by
      rw [length_field (Nat.succ_pos width) front, length_field (Nat.succ_pos width) other]
    rw [field_succ (Nat.succ_pos width), field_succ (Nat.succ_pos width),
      Text.append_lt_append_iff widths, less, same, List.cons_lt_cons_iff, digits]
    simp only [List.lt_irrefl, and_false, or_false]
    omega

/-- Fields of one width are the same for the same number only. -/
theorem field_inj {width m n : Nat} (some : 0 < width) (first : m < 10 ^ width)
    (second : n < 10 ^ width) : field width m = field width n ↔ m = n := by
  refine ⟨fun equal => ?_, fun equal => by rw [equal]⟩
  have less := field_lt_iff some first second
  have greater := field_lt_iff some second first
  rw [equal] at less greater
  have notLess := mt less.mpr (List.lt_irrefl _)
  have notGreater := mt greater.mpr (List.lt_irrefl _)
  omega

/-- Texts that begin with fields of one width are compared by the numbers in these first. -/
theorem field_append_lt_iff {width m n : Nat} (some : 0 < width) (first : m < 10 ^ width)
    (second : n < 10 ^ width) {rest more : Text} :
    field width m ++ rest < field width n ++ more ↔ m < n ∨ m = n ∧ rest < more := by
  have widths : (field width m).length = (field width n).length := by
    rw [length_field some first, length_field some second]
  rw [Text.append_lt_append_iff widths, field_lt_iff some first second,
    field_inj some first second]

/-! ### Stamps -/

/-- Whether an instant lies in a year of at most four digits. -/
def InYears (instant : Instant) : Prop := instant.nanos < Calendar.daysBefore 10000 * perDay

/-- Whether the year of an instant has at most four digits can be decided. -/
instance (instant : Instant) : Decidable instant.InYears :=
  inferInstanceAs (Decidable (instant.nanos < Calendar.daysBefore 10000 * perDay))

/-- The year, the month and the day of the month of an instant. -/
def date (instant : Instant) : Nat × Nat × Nat := Calendar.date (instant.nanos / perDay)

/-- The second that an instant lies in. -/
def second (instant : Instant) : Nat := instant.nanos / perSecond

/-- The year of an instant in years of at most four digits is less than ten thousand. -/
theorem InYears.year_lt {instant : Instant} (within : instant.InYears) :
    instant.date.1 < 10 ^ 4 := by
  have day : instant.nanos / perDay < Calendar.daysBefore 10000 :=
    Nat.div_lt_of_lt_mul (by rw [Nat.mul_comm]; exact within)
  by_contra late
  have year : 10000 ≤ Calendar.yearOf (instant.nanos / perDay) := Nat.le_of_not_lt late
  have start := Calendar.daysBefore_mono year
  have first := (Calendar.mem_yearOf (instant.nanos / perDay)).1
  omega

/-- The month and the day of an instant have at most two digits. -/
theorem date_bounds (instant : Instant) :
    instant.date.2.1 < 10 ^ 2 ∧ instant.date.2.2 < 10 ^ 2 :=
  Calendar.date_bounds (instant.nanos / perDay)

/-- The text of a date has its year, its month and its day. -/
theorem dateText_eq (instant : Instant) : instant.dateText =
    field 4 instant.date.1 ++ '-' :: field 2 instant.date.2.1 ++ '-' ::
      field 2 instant.date.2.2 :=
  rfl

/-- The stamps of instants in years of at most four digits have the same number of characters. -/
theorem InYears.length_stamp {instant : Instant} (within : instant.InYears) :
    instant.stamp.length = 27 := by
  obtain ⟨month, day⟩ := instant.date_bounds
  have fraction : instant.nanos % perSecond < 10 ^ 9 := Nat.mod_lt _ (by decide)
  have hour : ∀ n : Nat, n / 3600 % 24 < 10 ^ 2 := by intro n; omega
  have minute : ∀ n : Nat, n / 60 % 60 < 10 ^ 2 := by intro n; omega
  have least : ∀ n : Nat, n % 60 < 10 ^ 2 := by intro n; omega
  have date : instant.dateText.length = 10 := by
    rw [dateText_eq]
    simp [length_field _ within.year_lt, length_field _ month, length_field _ day]
  have time : instant.timeText.length = 6 := by
    unfold timeText
    simp [length_field _ (hour _), length_field _ (minute _), length_field _ (least _)]
  unfold stamp
  simp [date, time, length_field _ fraction]

/-- Dates are compared by year, month and day, and what follows them where they are equal. -/
theorem dateText_append_lt_iff {instant other : Instant} (within : instant.InYears)
    (otherWithin : other.InYears) {rest more : Text} :
    instant.dateText ++ rest < other.dateText ++ more ↔
      instant.date.1 < other.date.1 ∨ instant.date.1 = other.date.1 ∧
        (instant.date.2.1 < other.date.2.1 ∨ instant.date.2.1 = other.date.2.1 ∧
          (instant.date.2.2 < other.date.2.2 ∨ instant.date.2.2 = other.date.2.2 ∧
            rest < more)) := by
  have year := within.year_lt
  have otherYear := otherWithin.year_lt
  obtain ⟨month, day⟩ := instant.date_bounds
  obtain ⟨otherMonth, otherDay⟩ := other.date_bounds
  rw [dateText_eq, dateText_eq]
  simp only [List.append_assoc, List.cons_append]
  rw [field_append_lt_iff (by decide) year otherYear, List.cons_lt_cons_iff,
    field_append_lt_iff (by decide) month otherMonth, List.cons_lt_cons_iff,
    field_append_lt_iff (by decide) day otherDay]
  simp

/-- Times of day are compared by hour, minute and second, and what follows them where they are
equal. -/
theorem timeText_append_lt_iff {instant other : Instant} {rest more : Text} :
    instant.timeText ++ rest < other.timeText ++ more ↔
      instant.second / 3600 % 24 < other.second / 3600 % 24 ∨
        instant.second / 3600 % 24 = other.second / 3600 % 24 ∧
          (instant.second / 60 % 60 < other.second / 60 % 60 ∨
            instant.second / 60 % 60 = other.second / 60 % 60 ∧
              (instant.second % 60 < other.second % 60 ∨
                instant.second % 60 = other.second % 60 ∧ rest < more)) := by
  have hour : ∀ n : Nat, n / 3600 % 24 < 10 ^ 2 := by intro n; omega
  have minute : ∀ n : Nat, n / 60 % 60 < 10 ^ 2 := by intro n; omega
  have least : ∀ n : Nat, n % 60 < 10 ^ 2 := by intro n; omega
  unfold timeText
  simp only [List.append_assoc]
  rw [field_append_lt_iff (by decide) (hour _) (hour _),
    field_append_lt_iff (by decide) (minute _) (minute _),
    field_append_lt_iff (by decide) (least _) (least _)]
  simp only [second]

/-- An instant is its second and what has passed of it. -/
theorem nanos_eq (instant : Instant) :
    instant.nanos = instant.second * 1000000000 + instant.nanos % perSecond :=
  (Nat.div_add_mod' instant.nanos perSecond).symm

/-- A day has 86400 seconds. -/
theorem div_perDay (instant : Instant) : instant.nanos / perDay = instant.second / 86400 := by
  rw [second, Nat.div_div_eq_div_mul]
  rfl

/-- A later instant has a later stamp. -/
theorem stamp_lt {instant other : Instant} (within : instant.InYears) (otherWithin : other.InYears)
    (later : instant.nanos < other.nanos) : instant.stamp < other.stamp := by
  have first := instant.nanos_eq
  have last := other.nanos_eq
  have part : instant.nanos % perSecond < 10 ^ 9 := Nat.mod_lt _ (by decide)
  have otherPart : other.nanos % perSecond < 10 ^ 9 := Nat.mod_lt _ (by decide)
  unfold stamp
  simp only [List.append_assoc, List.cons_append]
  rw [dateText_append_lt_iff within otherWithin]
  rcases Nat.lt_or_ge (instant.nanos / perDay) (other.nanos / perDay) with before | notBefore
  · have dates := Calendar.date_lt before
    unfold date
    tauto
  · -- On one day the dates are the same, and the time of day decides.
    have days : instant.nanos / perDay = other.nanos / perDay :=
      Nat.le_antisymm (Nat.div_le_div_right (Nat.le_of_lt later)) notBefore
    have dates : instant.date = other.date := by rw [date, days, date]
    have times : '_' :: (instant.timeText ++ '_' :: field 9 (instant.nanos % perSecond)) <
        '_' :: (other.timeText ++ '_' :: field 9 (other.nanos % perSecond)) := by
      rw [List.cons_lt_cons_iff, timeText_append_lt_iff, List.cons_lt_cons_iff,
        field_lt_iff (by decide) part otherPart]
      rw [div_perDay, div_perDay] at days
      simp only [true_and, Char.lt_irrefl, false_or]
      generalize instant.nanos % perSecond = fraction at first part ⊢
      generalize other.nanos % perSecond = otherFraction at last otherPart ⊢
      omega
    rw [dates]
    exact .inr ⟨rfl, .inr ⟨rfl, .inr ⟨rfl, times⟩⟩⟩

/-- Stamps compare as texts exactly as the instants compare in time. -/
theorem stamp_lt_iff {instant other : Instant} (within : instant.InYears)
    (otherWithin : other.InYears) : instant.stamp < other.stamp ↔ instant.nanos < other.nanos := by
  refine ⟨fun less => ?_, stamp_lt within otherWithin⟩
  by_contra notEarlier
  rcases Nat.lt_or_eq_of_le (Nat.le_of_not_lt notEarlier) with later | same
  · exact List.lt_asymm less (stamp_lt otherWithin within later)
  · have equal : other = instant := congrArg Instant.mk same
    subst equal
    exact List.lt_irrefl _ less

end Instant

end IniKeeper
