import IniKeeper.Value
import IniKeeper.Proofs.Updates

/-!
# Numerals

Which texts are integers is told here by a grammar: decimal digits, each counting ten times what
stands in front of it, with or without a sign. Reading accepts exactly the texts of the grammar, and
the typed readers exactly those of them whose integer lies in the range of the type. What any typed
value is written as consists of characters that no guard looks for.
-/

namespace IniKeeper

open Text (Trimmed)

/-! ### The grammar -/

namespace Integer

/-- The number that decimal digits denote. -/
inductive Numeral : Text → Nat → Prop where
  /-- A single digit denotes its value. -/
  | digit {d : Nat} (small : d < 10) : Numeral [Nat.digitChar d] d
  /-- A further digit is added to ten times the number in front of it. -/
  | next {digits : Text} {n d : Nat} (front : Numeral digits n) (small : d < 10) :
      Numeral (digits ++ [Nat.digitChar d]) (10 * n + d)

/-- The integer that digits denote, with or without a sign. -/
inductive Denotes : Text → Int → Prop where
  /-- Digits alone denote their number. -/
  | unsigned {digits : Text} {n : Nat} (numeral : Numeral digits n) : Denotes digits n
  /-- Digits after a plus sign denote their number. -/
  | plus {digits : Text} {n : Nat} (numeral : Numeral digits n) : Denotes ('+' :: digits) n
  /-- Digits after a minus sign denote the negative. -/
  | minus {digits : Text} {n : Nat} (numeral : Numeral digits n) : Denotes ('-' :: digits) (-n)

variable {digits text : Text} {n : Nat} {value : Int}

/-- A character that is a digit is the digit of a number below ten. -/
theorem exists_digitChar {c : Char} (digit : c.isDigit = true) :
    ∃ d < 10, c = Nat.digitChar d := by
  simp only [Char.isDigit, Bool.and_eq_true, decide_eq_true_eq, ge_iff_le, UInt32.le_iff_toNat_le]
    at digit
  have low : 48 ≤ c.toNat := digit.1
  have high : c.toNat ≤ 57 := digit.2
  have small : c.toNat - 48 < 10 := by omega
  refine ⟨c.toNat - 48, small, Char.toNat_inj.mp ?_⟩
  rw [Nat.toNat_digitChar_of_lt_ten small]
  omega

/-- Digits are digits, and there is one at least. -/
theorem Numeral.isDigits (numeral : Numeral digits n) :
    digits ≠ [] ∧ ∀ c ∈ digits, c.isDigit = true := by
  induction numeral with
  | digit small => simp [Nat.isDigit_digitChar, small]
  | next front small ih =>
    refine ⟨by simp, fun c member => ?_⟩
    rcases List.mem_append.mp member with inFront | last
    · exact ih.2 c inFront
    · rw [List.mem_singleton.mp last, Nat.isDigit_digitChar]
      exact decide_eq_true small

/-- Summing the digits of a numeral up gives its number. -/
theorem Numeral.ofDigitChars (numeral : Numeral digits n) : Nat.ofDigitChars 10 digits 0 = n := by
  induction numeral with
  | digit small => simp [Nat.ofDigitChars_cons_digitChar_of_lt_ten small]
  | next front small ih =>
    rw [Nat.ofDigitChars_append, ih]
    simp [Nat.ofDigitChars_cons_digitChar_of_lt_ten small]

/-- One or more digits are a numeral. -/
theorem numeral_ofDigitChars (some : digits ≠ []) (all : ∀ c ∈ digits, c.isDigit = true) :
    Numeral digits (Nat.ofDigitChars 10 digits 0) := by
  -- The induction goes from the end, where the grammar adds its digits.
  induction digits using List.reverseRecOn with
  | nil => exact absurd rfl some
  | append_singleton front c ih =>
    obtain ⟨d, small, rfl⟩ := exists_digitChar (all c (by simp))
    rw [Nat.ofDigitChars_append, Nat.ofDigitChars_cons_digitChar_of_lt_ten small,
      Nat.ofDigitChars_nil]
    cases front with
    | nil => simpa using Numeral.digit small
    | cons first rest =>
      exact .next (ih (by simp) fun c member => all c (List.mem_append_left _ member)) small

/-- Digits are read as the number that they denote, and other texts are not read. -/
theorem readDigits?_eq_some_iff : readDigits? digits = some n ↔ Numeral digits n := by
  unfold readDigits?
  constructor
  · intro read
    obtain ⟨accepted, same⟩ := Option.ite_none_right_eq_some.mp read
    obtain rfl := Option.some.inj same
    simp only [Bool.and_eq_true, Bool.not_eq_true', List.isEmpty_eq_false_iff,
      List.all_eq_true] at accepted
    exact numeral_ofDigitChars accepted.1 accepted.2
  · intro numeral
    obtain ⟨some, all⟩ := numeral.isDigits
    have accepted : (!digits.isEmpty && digits.all Char.isDigit) = true := by
      simpa [some] using all
    rw [if_pos accepted, numeral.ofDigitChars]

/-- Digits do not begin with a sign. -/
theorem Numeral.head_ne {c : Char} {rest : Text} (numeral : Numeral (c :: rest) n) :
    c ≠ '-' ∧ c ≠ '+' := by
  have digit := numeral.isDigits.2 c List.mem_cons_self
  constructor <;> rintro rfl <;> simp [Char.isDigit] at digit

/-- After a minus sign, digits are read and their number is negated. -/
theorem read?_minus_iff :
    read? ('-' :: digits) = some value ↔ ∃ n : Nat, Numeral digits n ∧ -(n : Int) = value := by
  simp only [← readDigits?_eq_some_iff, read?]
  cases readDigits? digits <;> simp

/-- An integer is read exactly from the texts that denote it. -/
theorem read?_eq_some_iff : read? text = some value ↔ Denotes text value := by
  constructor
  · intro read
    unfold read? at read
    split at read
    · obtain ⟨n, numeral, rfl⟩ := read?_minus_iff.mp read
      exact .minus numeral
    · obtain ⟨n, digits, rfl⟩ := Option.map_eq_some_iff.mp read
      exact .plus (readDigits?_eq_some_iff.mp digits)
    · obtain ⟨n, digits, rfl⟩ := Option.map_eq_some_iff.mp read
      exact .unsigned (readDigits?_eq_some_iff.mp digits)
  · rintro (numeral | numeral | numeral)
    · have read := readDigits?_eq_some_iff.mpr numeral
      unfold read?
      split
      · exact absurd rfl numeral.head_ne.1
      · exact absurd rfl numeral.head_ne.2
      · rw [read]
        rfl
    · rw [read?, readDigits?_eq_some_iff.mpr numeral]
      rfl
    · exact read?_minus_iff.mpr ⟨_, numeral, rfl⟩

end Integer

namespace Storable

open Integer (Denotes)

variable {text : Text}

/-! ### Integers of a range -/

/-- An integer of 32 bits is made of an integer exactly if it is that integer. -/
theorem toInt32?_eq_some_iff {value : Int} {n : Int32} :
    toInt32? value = some n ↔ n.toInt = value := by
  unfold toInt32?
  constructor
  · intro made
    obtain ⟨within, same⟩ := Option.ite_none_right_eq_some.mp made
    rw [← Option.some.inj same]
    exact Int32.toInt_ofInt_of_le within.1 (Int.lt_of_le_of_lt within.2 (by decide))
  · rintro rfl
    rw [if_pos ⟨n.minValue_le_toInt, n.toInt_le⟩, Int32.ofInt_toInt]

/-- An integer of 64 bits is made of an integer exactly if it is that integer. -/
theorem toInt64?_eq_some_iff {value : Int} {n : Int64} :
    toInt64? value = some n ↔ n.toInt = value := by
  unfold toInt64?
  constructor
  · intro made
    obtain ⟨within, same⟩ := Option.ite_none_right_eq_some.mp made
    rw [← Option.some.inj same]
    exact Int64.toInt_ofInt_of_le within.1 (Int.lt_of_le_of_lt within.2 (by decide))
  · rintro rfl
    rw [if_pos ⟨n.minValue_le_toInt, n.toInt_le⟩, Int64.ofInt_toInt]

/-- Whether the values of a type are the integers from a negative bound up to below the bound,
written and read as these. -/
structure HoldsIntegers (α : Type) [Storable α] (toInt : α → Int) (bound : Int) : Prop where
  /-- A value is written as its integer. -/
  write_eq : ∀ n : α, write n = Integer.write (toInt n)
  /-- It is read exactly from the texts that denote its integer once they are trimmed. -/
  read?_iff : ∀ text (n : α), read? text = some n ↔ Denotes (Text.trim text) (toInt n)
  /-- Its integer is within the bound. -/
  within : ∀ n : α, -bound ≤ toInt n ∧ toInt n < bound
  /-- Each integer within the bound is that of a value. -/
  covers : ∀ number, -bound ≤ number → number < bound → ∃ n : α, toInt n = number

/-- A value that is made of an integer where the text of one was read is read exactly from the texts
that denote its integer. -/
theorem read?_bind_eq_some_iff {α : Type} {toInt : α → Int} {make : Int → Option α} {n : α}
    (made : ∀ value, make value = some n ↔ toInt n = value) :
    (Integer.read? text).bind make = some n ↔ Denotes text (toInt n) := by
  simp only [Option.bind_eq_some_iff, made, Integer.read?_eq_some_iff, exists_eq_right']

/-- The type of 32 bits holds the integers of these. -/
theorem holdsIntegers_int32 : HoldsIntegers Int32 Int32.toInt (Int.pow 2 31) where
  write_eq _ := rfl
  read?_iff _ _ := read?_bind_eq_some_iff fun _ => toInt32?_eq_some_iff
  within n := ⟨n.le_toInt, n.toInt_lt⟩
  covers number least most := ⟨.ofInt number, Int32.toInt_ofInt_of_le least most⟩

/-- The type of 64 bits holds the integers of these. -/
theorem holdsIntegers_int64 : HoldsIntegers Int64 Int64.toInt (Int.pow 2 63) where
  write_eq _ := rfl
  read?_iff _ _ := read?_bind_eq_some_iff fun _ => toInt64?_eq_some_iff
  within n := ⟨n.le_toInt, n.toInt_lt⟩
  covers number least most := ⟨.ofInt number, Int64.toInt_ofInt_of_le least most⟩

end Storable

/-! ### Written texts -/

namespace Text

/-- Whether a text has neither white space nor a closing bracket. -/
def Plain (text : Text) : Prop := ∀ c ∈ text, isBlank c = false ∧ c ≠ ']'

/-- Whether a text has neither can be decided. -/
instance (text : Text) : Decidable text.Plain :=
  List.decidableBAll (fun c => isBlank c = false ∧ c ≠ ']') text

variable {text other : Text}

/-- What is taken from a plain text is plain. -/
theorem Plain.of_subset (plain : other.Plain) (within : text ⊆ other) : text.Plain :=
  fun c member => plain c (within member)

/-- Two plain texts are plain together. -/
theorem Plain.append (first : text.Plain) (second : other.Plain) : Plain (text ++ other) :=
  fun c member => (List.mem_append.mp member).elim (first c) (second c)

/-- Digits are plain. -/
theorem plain_of_isDigit (digits : ∀ c ∈ text, c.isDigit = true) : text.Plain := by
  intro c member
  have digit := digits c member
  refine ⟨isBlank_of_isDigit digit, ?_⟩
  rintro rfl
  simp [Char.isDigit] at digit

/-- The text of a whole number is plain. -/
theorem plain_toDigits (n : Nat) : Plain (Nat.toDigits 10 n) :=
  plain_of_isDigit fun _ member => Nat.isDigit_of_mem_toDigits (by decide) (by decide) member

/-- Any number of zeros is plain. -/
theorem plain_zeros (count : Nat) : Plain (List.replicate count '0') :=
  plain_of_isDigit fun c member => by rw [List.eq_of_mem_replicate member]; rfl

/-- There is nothing to trim from a plain text. -/
theorem Plain.trimmed (plain : text.Plain) : Trimmed text :=
  trimmed_of_forall_solid fun c member => (plain c member).1

/-- A plain text has no line break. -/
theorem Plain.unbroken (plain : text.Plain) : '\n' ∉ text ∧ '\r' ∉ text := by
  constructor
  · intro feed
    exact absurd (plain '\n' feed).1 (by decide)
  · intro back
    exact absurd (plain '\r' back).1 (by decide)

/-- A key with a plain value makes no header. -/
theorem Plain.not_bracketed (plain : text.Plain) (key : Text) : ¬ Line.Bracketed key text := by
  rintro ⟨rest, front, -, rfl, -⟩
  exact (plain ']' (by simp)).2 rfl

end Text

/-- The text of an integer is plain. -/
theorem Integer.plain_write (n : Int) : (write n).Plain := by
  cases n with
  | ofNat n => exact Text.plain_toDigits n
  | negSucc n =>
    have sign : Text.Plain ['-'] := by decide
    exact sign.append (Text.plain_toDigits (n + 1))

namespace Decimal

open Binary (Format Number)

/-- The text of a decimal number is plain. -/
theorem plain_positional (number : Scaled) : (positional number).Plain := by
  have digits := Text.plain_toDigits number.digits
  unfold positional
  dsimp only
  split
  · split
    · exact digits
    · exact digits.append (Text.plain_zeros _)
  · generalize -number.exponent = places
    have padded := (Text.plain_zeros
      (places.toNat + 1 - (Nat.toDigits 10 number.digits).length)).append digits
    generalize List.replicate (places.toNat + 1 - (Nat.toDigits 10 number.digits).length) '0' ++
      Nat.toDigits 10 number.digits = text at padded
    have whole := padded.of_subset (List.take_subset (text.length - places.toNat) text)
    have fraction := padded.of_subset (List.drop_subset (text.length - places.toNat) text)
    split
    · exact whole
    · have point : Text.Plain ['.'] := by decide
      refine whole.append (point.append (fraction.of_subset fun c member => ?_))
      exact List.mem_reverse.mp ((List.dropWhile_sublist _).subset (List.mem_reverse.mp member))

/-- The text of a magnitude is plain. -/
theorem plain_writeMagnitude (format : Format) (rank : Nat) :
    (writeMagnitude format rank).Plain := by
  unfold writeMagnitude
  split
  · decide
  · exact plain_positional _

/-- The text of a binary number is plain. -/
theorem plain_write {format : Format} (number : Number format) : (write format number).Plain := by
  cases number with
  | nan =>
    have word : Text.Plain ['N', 'a', 'N'] := by decide
    exact word
  | signed negative rank =>
    cases negative with
    | false => exact plain_writeMagnitude format rank
    | true =>
      have sign : Text.Plain ['-'] := by decide
      exact sign.append (plain_writeMagnitude format rank)

end Decimal

namespace Storable

/-- The word for a truth value is plain. -/
theorem plain_truthWord (truth : Bool) : (truthWord truth).Plain := by
  cases truth <;> decide

/-- Whether every value of a type is written as a plain text. -/
def WritesPlainly (α : Type) [Storable α] : Prop := ∀ value : α, (write value).Plain

/-- Whether a value is read back from the text that is written for it. -/
def ReadsBack {α : Type} [Storable α] (value : α) : Prop := read? (write value) = some value

/-- An integer that a type holds is read back, its extremes included. -/
theorem HoldsIntegers.readsBack {α : Type} [Storable α] {toInt : α → Int} {bound : Int}
    (holds : HoldsIntegers α toInt bound) (n : α) : ReadsBack n := by
  have denotes := Integer.read?_eq_some_iff.mp (Integer.read?_write (toInt n))
  rw [← (Integer.plain_write (toInt n)).trimmed, ← holds.write_eq n] at denotes
  exact (holds.read?_iff _ n).mpr denotes

/-- A type that holds integers writes them plainly. -/
theorem HoldsIntegers.writesPlainly {α : Type} [Storable α] {toInt : α → Int} {bound : Int}
    (holds : HoldsIntegers α toInt bound) : WritesPlainly α := by
  intro n
  rw [holds.write_eq n]
  exact Integer.plain_write (toInt n)

/-- A truth value is read back. -/
theorem readsBack_bool (truth : Bool) : ReadsBack truth := by
  cases truth <;> rfl

end Storable

end IniKeeper
