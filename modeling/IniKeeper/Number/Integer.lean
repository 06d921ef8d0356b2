import IniKeeper.Text

/-!
# Integers in decimal

An integer is written with a minus sign where it is negative and without leading zeros. It is read
from an optional sign followed by one or more of the digits 0 to 9, and nothing else.
-/

namespace IniKeeper

namespace Integer

/-- The digits of a number in base ten. -/
def write : Int → Text
  | .ofNat n => Nat.toDigits 10 n
  | .negSucc n => '-' :: Nat.toDigits 10 (n + 1)

/-- The number that one or more digits denote. -/
def readDigits? (digits : Text) : Option Nat :=
  if !digits.isEmpty && digits.all Char.isDigit then some (Nat.ofDigitChars 10 digits 0) else none

/-- The number that digits denote, with or without a plus sign. -/
def readNatural? : Text → Option Nat
  | '+' :: digits => readDigits? digits
  | digits => readDigits? digits

/-- The number that an optional sign and digits denote. -/
def read? : Text → Option Int
  | '-' :: digits => (readDigits? digits).map fun n => -(n : Int)
  | '+' :: digits => (readDigits? digits).map Int.ofNat
  | digits => (readDigits? digits).map Int.ofNat

/-- Written digits are read back as the number they were written for. -/
theorem readDigits?_toDigits (n : Nat) : readDigits? (Nat.toDigits 10 n) = some n := by
  have digits : (Nat.toDigits 10 n).all Char.isDigit = true := by
    rw [List.all_eq_true]
    intro c member
    exact Nat.isDigit_of_mem_toDigits (by decide) (by decide) member
  have some_digit : (Nat.toDigits 10 n).isEmpty = false := by
    simp [Nat.toDigits_ne_nil]
  simp [readDigits?, digits, some_digit, Nat.ofDigitChars_toDigits]

/-- A written integer is read back. -/
theorem read?_write (n : Int) : read? (write n) = some n := by
  cases n with
  | negSucc n =>
    simp only [write, read?, readDigits?_toDigits]
    rfl
  | ofNat n =>
    cases digits : Nat.toDigits 10 n with
    | nil => exact absurd digits Nat.toDigits_ne_nil
    | cons first rest =>
      have first_digit : first.isDigit = true :=
        Nat.isDigit_of_mem_toDigits (by decide) (by decide)
          (digits ▸ List.mem_cons_self : first ∈ Nat.toDigits 10 n)
      have plain : read? (first :: rest) = (readDigits? (first :: rest)).map Int.ofNat := by
        unfold read?
        split
        · rename_i heq
          simp only [List.cons.injEq] at heq
          rw [heq.1] at first_digit
          simp [Char.isDigit] at first_digit
        · rename_i heq
          simp only [List.cons.injEq] at heq
          rw [heq.1] at first_digit
          simp [Char.isDigit] at first_digit
        · rfl
      simp only [write, digits]
      rw [plain, ← digits, readDigits?_toDigits]
      rfl

end Integer

end IniKeeper
