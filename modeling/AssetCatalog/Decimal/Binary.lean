import AssetCatalog.Text

/-! Binary floating-point numbers with 53 significant bits, and the nearest one to a decimal number. -/

namespace AssetCatalog.Decimal

/-- A finite positive number: a whole multiple of a power of two. -/
structure Binary where
  /-- The significand, below two to the 53. -/
  significand : Nat
  /-- The power of two that the significand counts, never below the smallest one. -/
  exponent : Int
deriving DecidableEq, Repr

/-- The exponent of the smallest positive number. -/
def leastExponent : Int := -1074

/-- The exponent of the greatest finite numbers. -/
def greatestExponent : Int := 971

/-- The greatest bit of a significand of full length. -/
def leadingBit : Nat := 0x10000000000000

/-- A positive fraction as a numerator and a denominator, scaled by a power of a base. -/
def scaled (base : Nat) (numerator denominator : Nat) (power : Int) : Nat × Nat :=
  match power with
  | .ofNat n => (numerator * base.pow n, denominator)
  | .negSucc n => (numerator, denominator * base.pow (n + 1))

/-- The quotient rounded to the nearest whole number, a tie to the even one. -/
def roundDiv (numerator denominator : Nat) : Nat :=
  let quotient := numerator / denominator
  let twice := 2 * (numerator % denominator)
  if twice < denominator then quotient
  else if denominator < twice then quotient + 1
  else quotient + quotient % 2

/-- The number of bits before the point of a positive fraction, less one: its binary logarithm. -/
def binaryLog (numerator denominator : Nat) : Int :=
  -- The difference of the logarithms is exact or one too great.
  let guess : Int := (Nat.log2 numerator : Int) - Nat.log2 denominator
  let (a, b) := scaled 2 numerator denominator (-guess)
  if a < b then guess - 1 else guess

/-- The nearest number to a positive fraction, or nothing where it is beyond the greatest one. -/
def nearest? (numerator denominator : Nat) : Option Binary :=
  let exponent := max (binaryLog numerator denominator - 52) leastExponent
  let (a, b) := scaled 2 numerator denominator (-exponent)
  let significand := roundDiv a b
  -- Rounding up may carry into one more bit.
  let (significand, exponent) :=
    if significand = 2 * leadingBit then (leadingBit, exponent + 1) else (significand, exponent)
  if greatestExponent < exponent then none else some ⟨significand, exponent⟩

end AssetCatalog.Decimal
