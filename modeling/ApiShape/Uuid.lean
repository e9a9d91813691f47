import ApiShape.Number.Digits
import ApiShape.Text.Quoted

/-!
Universally unique identifiers in their canonical form of 32 hexadecimal digits in five groups.
-/

namespace ApiShape

open Number

/-- A universally unique identifier as a number of 128 bits. -/
structure Uuid where
  number : Nat
deriving DecidableEq, Repr

namespace Uuid

/-- The number of exactly `count` hexadecimal digits, appended to `acc`, and the text after them. -/
def spanHex : (count : Nat) → (acc : Nat) → List Char → Option (Nat × List Char)
  | 0, acc, s => some (acc, s)
  | _ + 1, _, [] => none
  | count + 1, acc, c :: s =>
    match hexDigit? c with
    | some d => spanHex count (acc * 16 + d) s
    | none => none

/-- The number of the groups of digits, hyphens between them, that make up the whole text. -/
def spanGroups : (groups : List Nat) → (acc : Nat) → List Char → Option Nat
  | [], acc, s => if s.isEmpty then some acc else none
  | [count], acc, s => (spanHex count acc s).bind fun (acc, s) => spanGroups [] acc s
  | count :: groups, acc, s =>
    match spanHex count acc s with
    | some (acc, '-' :: s) => spanGroups groups acc s
    | _ => none

/-- Reads groups of 8, 4, 4, 4 and 12 digits. -/
def read? (text : String) : Option Uuid := (spanGroups [8, 4, 4, 4, 12] 0 text.toList).map Uuid.mk

/-- The canonical text, in lower case. -/
def toText (u : Uuid) : String :=
  let ds := Text.hexFixed 32 u.number
  let group (start count : Nat) := String.ofList ((ds.drop start).take count)
  "-".intercalate [group 0 8, group 8 4, group 12 4, group 16 4, group 20 12]

end Uuid

end ApiShape
