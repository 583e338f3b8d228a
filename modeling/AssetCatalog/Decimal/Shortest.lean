import AssetCatalog.Decimal.Binary

/-! The shortest decimal text that reads back as a given binary floating-point number. -/

namespace AssetCatalog.Decimal

/-- A number on a decimal grid: digits counted in units of a power of ten. -/
structure Grid where
  /-- The digits as a whole number. -/
  digits : Nat
  /-- The power of ten of the last digit. -/
  exponent : Int
deriving DecidableEq, Repr

namespace Binary

/-- The number as a fraction. -/
def fraction (value : Binary) : Nat × Nat :=
  scaled 2 value.significand 1 value.exponent

/-- The ends of the interval of fractions that round to the number, over the same denominator. -/
def interval (value : Binary) : Nat × Nat × Nat :=
  -- Below a power of two the neighbour is only half as far away.
  let (n, d) := scaled 2 1 4 value.exponent
  let lower := if value.significand = leadingBit ∧ leastExponent < value.exponent
    then 4 * value.significand - 1 else 4 * value.significand - 2
  (lower * n, (4 * value.significand + 2) * n, d)

/-- Whether a number on a decimal grid rounds to the given one; the ends count for even significands. -/
def readsBack (value : Binary) (candidate : Grid) : Bool :=
  let (low, high, d) := value.interval
  let (n, e) := scaled 10 candidate.digits 1 candidate.exponent
  if value.significand % 2 = 0 then low * e ≤ n * d && n * d ≤ high * e
  else low * e < n * d && n * d < high * e

/-- The neighbours of the number on a decimal grid, the nearer one first and of two the even one. -/
def neighbours (value : Binary) (exponent : Int) : List Grid :=
  let (n, d) := value.fraction
  let (a, b) := scaled 10 n d (-exponent)
  let below := a / b
  let nearer := roundDiv a b
  if nearer = below then [⟨below, exponent⟩, ⟨below + 1, exponent⟩]
  else [⟨below + 1, exponent⟩, ⟨below, exponent⟩]

/-- The power of ten of the first digit of the number. -/
def leadingExponent (value : Binary) : Int :=
  -- The estimate from the number of decimal digits is exact or one too great.
  let (n, d) := value.fraction
  let guess : Int := ((Nat.toDigits 10 n).length : Int) - (Nat.toDigits 10 d).length
  let (a, b) := scaled 10 n d (-guess)
  if a < b then guess - 1 else guess

/-- The first grid, from coarse to fine, with a number that reads back. -/
def firstGrid (value : Binary) (leading : Int) : Nat → Nat → Grid
  | 0, count => ⟨(value.neighbours (leading - count)).head?.elim 0 Grid.digits, leading - count⟩
  | fuel + 1, count =>
    match (value.neighbours (leading - count)).find? value.readsBack with
    | some found => found
    | none => firstGrid value leading fuel (count + 1)

/-- The number on the coarsest decimal grid that reads back: the shortest digits, and the nearest of those. -/
def shortest (value : Binary) : Grid :=
  -- Seventeen digits always suffice.
  value.firstGrid value.leadingExponent 17 0

end Binary

/-- The digits without the zeros at their end. -/
def withoutTrailingZeros (digits : Text) : Text :=
  Text.trimRight (· == '0') digits

/-- The text of significant digits with the point behind so many of them. -/
def layout (digits : Text) (point : Int) : Text :=
  -- Exponents from minus four to fifteen are written out.
  if -4 < point ∧ point ≤ 16 then
    match point with
    | .ofNat 0 => "0." ++ digits
    | .ofNat n =>
      if n < digits.length then digits.take n ++ "." ++ digits.drop n
      else digits ++ List.replicate (n - digits.length) '0' ++ ".0"
    | .negSucc n => "0." ++ List.replicate (n + 1) '0' ++ digits
  else
    let exponent := point - 1
    let magnitude := Text.ofNat exponent.natAbs
    let padded := if magnitude.length < 2 then '0' :: magnitude else magnitude
    let fraction := if digits.length ≤ 1 then [] else '.' :: digits.drop 1
    digits.take 1 ++ fraction ++ "e" ++ (if exponent < 0 then ['-'] else ['+']) ++ padded

/-- The shortest text of a positive number. -/
def text (value : Binary) : Text :=
  let grid := value.shortest
  let all := Text.ofNat grid.digits
  layout (withoutTrailingZeros all) (all.length + grid.exponent)

/-- The shortest text of the number nearest to a decimal literal of digits and a power of ten. -/
def canonical (negative : Bool) (digits : Nat) (exponent : Int) : Text :=
  -- Powers far outside the range need not be computed.
  let size : Int := (Nat.toDigits 10 digits).length
  let magnitude : Text :=
    if digits = 0 ∨ size + exponent < -400 then "0.0"
    else if 400 < size + exponent then "inf"
    else
      let (n, d) := scaled 10 digits 1 exponent
      match nearest? n d with
      | none => "inf"
      | some value => if value.significand = 0 then "0.0" else text value
  if negative then '-' :: magnitude else magnitude

end AssetCatalog.Decimal
