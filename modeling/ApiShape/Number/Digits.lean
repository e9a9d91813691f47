import ApiShape.Text.Numeral

/-!
Digit sequences: reading ASCII digits as a number, and writing a number in decimal digits.
-/

namespace ApiShape.Number

open ApiShape.Text

/-- Ten to that power. -/
def tenTo (n : Nat) : Nat := Nat.pow 10 n

/-- Two to that power. -/
def twoTo (n : Nat) : Nat := Nat.pow 2 n

/-- The number that `acc` becomes when the digits are appended to it. -/
def appendDigits (acc : Nat) (digits : List Char) : Nat :=
  digits.foldl (fun n c => n * 10 + (c.toNat - 48)) acc

/-- The number that ASCII digits denote. -/
def ofDigits (digits : List Char) : Nat := appendDigits 0 digits

def isDigit (c : Char) : Bool := (asciiDigit? c).isSome

/-- The decimal digits of a number, without leading zeros. -/
def digits (n : Nat) : List Char := Nat.toDigits 10 n

/-- How many decimal digits a number has; zero has one. -/
def digitCount (n : Nat) : Nat := (digits n).length

/-- The number in at least `width` digits. -/
def padded (width n : Nat) : List Char :=
  List.replicate (width - digitCount n) '0' ++ digits n

/-- The ASCII digits at the head of a text, and what follows them. -/
def spanDigits (s : List Char) : List Char × List Char := s.span isDigit

/-- Drops a sign from the head of a text and tells whether it was a minus. -/
def spanSign : List Char → Bool × List Char
  | '-' :: rest => (true, rest)
  | '+' :: rest => (false, rest)
  | s => (false, s)

/-- The value of a hexadecimal digit of either case. -/
def hexDigit? (c : Char) : Option Nat :=
  if '0' ≤ c ∧ c ≤ '9' then some (c.toNat - 48)
  else if 'a' ≤ c ∧ c ≤ 'f' then some (c.toNat - 87)
  else if 'A' ≤ c ∧ c ≤ 'F' then some (c.toNat - 55)
  else none

end ApiShape.Number
