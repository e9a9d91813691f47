import ApiShape.Number.Digits

/-!
Whole numbers in wire text: an optional sign and ASCII digits, at most 4300 of them. The bounded
types admit the two's complement range of their width.
-/

namespace ApiShape.Number

/-- Longer digit sequences are refused. Leading zeros count. -/
def maxDigits : Nat := 4300

/-- The sign and the digits of a whole number text. -/
def signedDigits? (s : List Char) : Option (Bool × List Char) :=
  let (negative, rest) := spanSign s
  if !rest.isEmpty && rest.all isDigit then some (negative, rest) else none

/-- The number with that sign. -/
def signed (negative : Bool) (n : Nat) : Int := if negative then -(n : Int) else n

/-- The whole number types: one without bounds and four of fixed width. -/
inductive IntegerType where
  | unbounded
  | int8
  | int16
  | int32
  | int64
deriving DecidableEq, Repr

namespace IntegerType

/-- The width of the bounded types. -/
def bits? : IntegerType → Option Nat
  | unbounded => none
  | int8 => some 8
  | int16 => some 16
  | int32 => some 32
  | int64 => some 64

/-- The types from the widest to the narrowest bounds. -/
def all : List IntegerType := [unbounded, int64, int32, int16, int8]

/-- The number belongs to the type. -/
def admits (t : IntegerType) (n : Int) : Bool :=
  match t.bits? with
  | none => true
  | some b => -(twoTo (b - 1) : Int) ≤ n && n < twoTo (b - 1)

end IntegerType

end ApiShape.Number
