import ApiShape.Number.Decimal

/-!
Double precision numbers in exact arithmetic. A finite number counts units of 2^-1074; rounding goes
to the nearest number and on a tie to the even one. The written form has the fewest digits that
read back.
-/

namespace ApiShape.Number

/-- A double precision number; `finite s m e` stands for `±m · 2 ^ e` units of 2^-1074. -/
inductive Double where
  | nan
  | infinite (negative : Bool)
  | finite (negative : Bool) (significand exponent : Nat)
deriving DecidableEq, Repr

/-- The quotient rounded to the nearest whole number, a tie to the even one. -/
def divHalfEven (n d : Nat) : Nat :=
  let q := n / d
  let r := n % d
  if 2 * r < d then q else if d < 2 * r then q + 1 else if q % 2 = 0 then q else q + 1

namespace Double

/-- The largest exponent of a finite number. -/
def maxExponent : Nat := 2045

/-- The number nearest to `±n / d` units. -/
def ofUnits (negative : Bool) (n d : Nat) : Double :=
  let exponent := (n / d).log2 + 1 - 53
  let significand := divHalfEven n (d * twoTo exponent)
  let (significand, exponent) :=
    if significand = twoTo 53 then (twoTo 52, exponent + 1) else (significand, exponent)
  if maxExponent < exponent then infinite negative else finite negative significand exponent

/-- The number nearest to `±coefficient · 10 ^ exponent`. -/
def ofScientific (negative : Bool) (coefficient : Nat) (exponent : Int) : Double :=
  if coefficient = 0 then finite negative 0 0
  else
    let magnitude := exponent + digitCount coefficient
    if 310 < magnitude then infinite negative
    else if magnitude < -330 then finite negative 0 0
    else if 0 ≤ exponent then ofUnits negative (coefficient * tenTo exponent.toNat * twoTo 1074) 1
    else ofUnits negative (coefficient * twoTo 1074) (tenTo (-exponent).toNat)

/-- The number nearest to a decimal. -/
def ofDecimal (d : Decimal) : Double := ofScientific d.negative d.coefficient d.exponent

/-- The number with the given bit pattern. -/
def ofBits (bits : Nat) : Double :=
  let negative := bits / twoTo 63 % 2 = 1
  let exponent := bits / twoTo 52 % 2048
  let fraction := bits % twoTo 52
  if exponent = 2047 then if fraction = 0 then infinite negative else nan
  else if exponent = 0 then finite negative fraction 0
  else finite negative (twoTo 52 + fraction) (exponent - 1)

/-- The bit pattern of the number; that of a NaN is the quiet one. -/
def toBits : Double → Nat
  | nan => 2047 * twoTo 52 + twoTo 51
  | infinite negative => (if negative then twoTo 63 else 0) + 2047 * twoTo 52
  | finite negative m e =>
    let fields := if m < twoTo 52 then m else (e + 1) * twoTo 52 + (m - twoTo 52)
    (if negative then twoTo 63 else 0) + fields

/-- The exact size of `m · 2 ^ e` units, as a coefficient of 10^-1074. -/
def exactCoefficient (m e : Nat) : Nat := m * twoTo e * Nat.pow 5 1074

/-! ## Fewest digits -/

/-- The exponent of the leading decimal digit of `m · 2 ^ e` units. -/
def leadingExponent (m e : Nat) : Int := (digitCount (exactCoefficient m e) : Int) - 1 - 1074

/-- The decimals below and above `m · 2 ^ e` units on the grid of 10 ^ `grid`. -/
def neighbours (m e : Nat) (grid : Int) : Nat × Nat × Nat × Nat :=
  let shift := grid + 1074
  let (n, d) :=
    if 0 ≤ shift then (exactCoefficient m e, tenTo shift.toNat)
    else (exactCoefficient m e * tenTo (-shift).toNat, 1)
  (n / d, n / d + 1, n % d, d)

/-- Of the decimals below and above a number the nearer one, on a tie the even one, or else the
other, if it passes. -/
def nearestThat (passes : Nat → Bool) : Nat × Nat × Nat × Nat → Option Nat
  | (below, above, rest, unit) =>
    let (near, far) :=
      if 2 * rest < unit || (2 * rest == unit && below % 2 == 0) then (below, above)
      else (above, below)
    if passes near then some near else if passes far then some far else none

/-- The decimal of at most `count` digits nearest to the number, if it reads back as the number. -/
def withDigits? (m e : Nat) (count : Nat) : Option (Nat × Int) :=
  let grid := leadingExponent m e + 1 - count
  let readsBack (c : Nat) : Bool := ofScientific false c grid == finite false m e
  (nearestThat readsBack (neighbours m e grid)).map (·, grid)

/-- Coefficient and exponent with the zeros at the end of the coefficient moved to the exponent. -/
def dropZeros : (fuel : Nat) → Nat → Int → Nat × Int
  | 0, c, e => (c, e)
  | fuel + 1, c, e => if c != 0 && c % 10 == 0 then dropZeros fuel (c / 10) (e + 1) else (c, e)

/-- The shortest decimal that reads back as `m · 2 ^ e` units. Every double has one of at most 17
digits; its exact decimal stands in where the search ends without one. -/
def shortest (m e : Nat) : Nat × Int :=
  (((List.range 17).map (· + 1)).findSome? (withDigits? m e)).elim (exactCoefficient m e, -1074)
    fun (c, grid) => dropZeros 17 c grid

/-! ## Written form -/

/-- The digits with a point after the first `whole` of them, zeros filled in on either side. -/
def positional (ds : List Char) (whole : Int) : List Char :=
  if whole ≤ 0 then '0' :: '.' :: List.replicate (-whole).toNat '0' ++ ds
  else
    let n := whole.toNat
    if ds.length ≤ n then ds ++ List.replicate (n - ds.length) '0' ++ ['.', '0']
    else ds.take n ++ '.' :: ds.drop n

/-- The digits as a number from one to ten and a power of ten of at least two digits. -/
def scientific (ds : List Char) (leading : Int) : List Char :=
  let mantissa := if ds.length ≤ 1 then ds else ds.take 1 ++ '.' :: ds.drop 1
  mantissa ++ 'e' :: (if leading < 0 then '-' else '+') :: padded 2 leading.natAbs

/-- The written form of `m · 2 ^ e` units: positional from 10^-4 up to 10^16. -/
def magnitudeText (m e : Nat) : List Char :=
  if m = 0 then ['0', '.', '0']
  else
    let (c, exponent) := shortest m e
    let ds := digits c
    let leading := exponent + ds.length - 1
    if -4 ≤ leading && leading < 16 then positional ds (leading + 1) else scientific ds leading

/-- The written form of a number. -/
def toText : Double → List Char
  | nan => "nan".toList
  | infinite negative => (if negative then "-inf" else "inf").toList
  | finite negative m e => if negative then '-' :: magnitudeText m e else magnitudeText m e

/-! ## Sums -/

/-- The number of units of a finite number. -/
def units (negative : Bool) (m e : Nat) : Int := signed negative (m * twoTo e)

/-- The sum, rounded. Zeros of both signs add to zero; equal infinities keep, opposite ones give
NaN. -/
def add : Double → Double → Double
  | nan, _ | _, nan => nan
  | infinite s, infinite t => if s = t then infinite s else nan
  | infinite s, _ | _, infinite s => infinite s
  | finite s m e, finite t n f =>
    let total := units s m e + units t n f
    if total = 0 then finite (s && t) 0 0 else ofUnits (total < 0) total.natAbs 1

def zero : Double := finite false 0 0

/-- One. -/
def one : Double := ofScientific false 1 0

end Double

end ApiShape.Number
