import ApiShape.Number.Integer

/-!
Exact decimal numbers: a sign, a coefficient and a power of ten. Trailing zeros and the sign of zero
are kept. The written form is positional down to six zeros behind the point and scientific else.
-/

namespace ApiShape.Number

/-- The number `±coefficient · 10 ^ exponent`. -/
structure Decimal where
  negative : Bool
  coefficient : Nat
  exponent : Int
deriving DecidableEq, Repr

/-- The pieces of a decimal text: sign, digits before and after the point, and the exponent. -/
structure DecimalText where
  negative : Bool
  whole : List Char
  fraction : List Char
  exponent : Int
deriving DecidableEq, Repr

/-- An exponent mark with a whole number, or nothing, at the head of a text. -/
def spanExponent (s : List Char) : Int × List Char :=
  match s with
  | 'e' :: rest | 'E' :: rest =>
    let (negative, rest) := match rest with
      | '-' :: rest => (true, rest)
      | '+' :: rest => (false, rest)
      | _ => (false, rest)
    match spanDigits rest with
    | ([], _) => (0, s)
    | (ds, rest) => (signed negative (ofDigits ds), rest)
  | _ => (0, s)

/-- The decimal text at the head of `s`, with at least one digit before or after the point. -/
def DecimalText.span? (s : List Char) : Option (DecimalText × List Char) :=
  let (negative, s) := spanSign s
  let (whole, rest) := spanDigits s
  let (fraction, rest) := match rest with
    | '.' :: rest => spanDigits rest
    | _ => ([], rest)
  if whole.isEmpty && fraction.isEmpty then none
  else
    let (exponent, rest) := spanExponent rest
    some (⟨negative, whole, fraction, exponent⟩, rest)

/-- The number that a decimal text denotes. -/
def DecimalText.value (t : DecimalText) : Decimal :=
  ⟨t.negative, ofDigits (t.whole ++ t.fraction), t.exponent - t.fraction.length⟩

namespace Decimal

/-- The exponent of the leading digit. -/
def adjusted (d : Decimal) : Int := d.exponent + digitCount d.coefficient - 1

/-- The exponents that decimals can have. -/
def inRange (d : Decimal) : Bool :=
  d.adjusted ≤ 999999999999999999 && -1999999999999999997 ≤ d.exponent

/-- Writes a whole number with its sign, a plus included. -/
def signedText (n : Int) : List Char := (if n < 0 then '-' else '+') :: digits n.natAbs

/-- The digits with a point `places` from their right end, zeros filled in on the left. -/
def withPoint (places : Nat) (ds : List Char) : List Char :=
  if places = 0 then ds
  else
    let ds := List.replicate (places + 1 - ds.length) '0' ++ ds
    ds.take (ds.length - places) ++ '.' :: ds.drop (ds.length - places)

/-- The written form, which shows sign, coefficient and exponent. -/
def toText (d : Decimal) : List Char :=
  let ds := digits d.coefficient
  let body :=
    if d.exponent ≤ 0 && -6 ≤ d.adjusted then withPoint (-d.exponent).toNat ds
    else withPoint (ds.length - 1) ds ++ 'E' :: signedText d.adjusted
  if d.negative then '-' :: body else body

end Decimal

end ApiShape.Number
