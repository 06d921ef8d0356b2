/-!
# Binary floating-point numbers

A number of a binary format is not a number at all, or a sign with a rank. Ranks count the
magnitudes of the format upwards from zero, so that neighbouring magnitudes have neighbouring
ranks; the rank after the largest finite magnitude is infinity. The sign and the rank are the bits
of the interchange encoding, and rounding a rational number to the format is one division.
-/

namespace IniKeeper

namespace Binary

/-- The widths of the two fields of a format. -/
structure Format where
  /-- Stored bits of the significand. -/
  fractionBits : Nat
  /-- Bits of the exponent. -/
  exponentBits : Nat
  deriving Repr, DecidableEq

namespace Format

/-- The format of 64 bits. -/
def double : Format := ⟨52, 11⟩

/-- The format of 32 bits. -/
def single : Format := ⟨23, 8⟩

/-- How much an encoded exponent exceeds the exponent it stands for. -/
def bias (format : Format) : Nat := Nat.pow 2 (format.exponentBits - 1) - 1

/-- The exponent of the last place of the smallest magnitudes. -/
def minExponent (format : Format) : Int := 1 - format.bias - format.fractionBits

/-- Ranks that share one exponent. -/
def binade (format : Format) : Nat := Nat.pow 2 format.fractionBits

/-- The rank of infinity. -/
def infinityRank (format : Format) : Nat := (Nat.pow 2 format.exponentBits - 1) * format.binade

end Format

/-- A number of a format. -/
inductive Number (format : Format) where
  /-- No number. -/
  | nan
  /-- A sign and a magnitude, infinity included. -/
  | signed (negative : Bool) (rank : Nat)
  deriving Repr, DecidableEq

/-- The number that an encoding of the format stands for. -/
def ofBits (format : Format) (bits : Nat) : Number format :=
  let signBit := format.binade * Nat.pow 2 format.exponentBits
  let rank := bits % signBit
  if format.infinityRank < rank then .nan else .signed (signBit ≤ bits) rank

/-- The significand of a finite magnitude and the exponent of its last place. -/
def decode (format : Format) (rank : Nat) : Nat × Int :=
  let field := rank / format.binade
  let fraction := rank % format.binade
  if field = 0 then (fraction, format.minExponent)
  else (format.binade + fraction, format.minExponent + (field - 1 : Nat))

/-- A fraction scaled by a power of two, as a fraction. -/
def scale (exponent : Int) (numerator denominator : Nat) : Nat × Nat :=
  if 0 ≤ exponent then (numerator * Nat.pow 2 exponent.toNat, denominator)
  else (numerator, denominator * Nat.pow 2 (-exponent).toNat)

/-- The nearest whole number to a fraction, and of two nearest ones the even one. -/
def roundEven (numerator denominator : Nat) : Nat :=
  let whole := numerator / denominator
  let twice := 2 * (numerator % denominator)
  if twice < denominator then whole
  else if denominator < twice then whole + 1
  else whole + whole % 2

/-- The greatest power of two that is no greater than a positive fraction, as its exponent. -/
def floorLog2 (numerator denominator : Nat) : Int :=
  let guess : Int := numerator.log2 - denominator.log2
  let (top, bottom) := scale (-guess) numerator denominator
  if bottom ≤ top then guess else guess - 1

/-- The rank of the magnitude of the format nearest to a positive fraction. -/
def rankNearest (format : Format) (numerator denominator : Nat) : Nat :=
  let exponent :=
    max (floorLog2 numerator denominator - format.fractionBits) format.minExponent
  let (top, bottom) := scale (-exponent) numerator denominator
  let rank := (exponent - format.minExponent).toNat * format.binade + roundEven top bottom
  min rank format.infinityRank

end Binary

end IniKeeper
