import ApiShape.Error

/-!
Enumerations. A member whose value equals that of an earlier one is another name of that member. An
enumeration of flags lists only members of a single bit; it knows the others by name. A number that
is too long to be printed has no text to be converted from, so it is the value of no listed member.
-/

namespace ApiShape

open Number

namespace EnumValue

/-- The values are equal; truth values equal the numbers 0 and 1. -/
def same : EnumValue → EnumValue → Bool
  | bool b, int n | int n, bool b => n = if b then 1 else 0
  | a, b => a = b

/-- The value is a number of a single bit. -/
def isSingleBit : EnumValue → Bool
  | int n => 0 < n && (n.toNat &&& (n.toNat - 1)) == 0
  | bool b => b
  | _ => false

/-- The value can be printed, which numbers of too many digits cannot. -/
def isPrintable : EnumValue → Bool
  | int n => digitCount n.natAbs ≤ maxDigits
  | _ => true

end EnumValue

/-- The members of an enumeration under their first names: those that are listed, and flags that are
combined from others. Further names stand for one of these. -/
structure MemberTable where
  members : List (String × EnumValue) := []
  combined : List (String × EnumValue) := []
  aliases : List (String × String) := []
deriving DecidableEq, Repr

namespace MemberTable

/-- Adds a member or, if the value is taken, another name of the member that has it. -/
def add (t : MemberTable) (flags : Bool) (name : String) (value : EnumValue) : MemberTable :=
  match (t.members ++ t.combined).find? (·.2.same value) with
  | some (first, _) => { t with aliases := t.aliases ++ [(name, first)] }
  | none =>
    if flags && !value.isSingleBit then { t with combined := t.combined ++ [(name, value)] }
    else { t with members := t.members ++ [(name, value)] }

def ofItems (flags : Bool) (items : List (String × EnumValue)) : MemberTable :=
  items.foldl (fun t item => t.add flags item.1 item.2) {}

/-- The names of the listed members in order. -/
def names (t : MemberTable) : List String := t.members.map (·.1)

/-- The member of that name. -/
def byName? (t : MemberTable) (name : String) : Option (String × EnumValue) :=
  let first := (t.aliases.lookup name).getD name
  (t.members ++ t.combined).find? (·.1 == first)

/-- The last listed member whose printed value is the text. -/
def byValue? (t : MemberTable) (text : String) : Option (String × EnumValue) :=
  t.members.reverse.find? (·.2.printed == text)

end MemberTable

/-- An enumeration that texts can be converted to. -/
structure Enumeration extends MemberTable where
  printable : ∀ m ∈ members, m.2.isPrintable = true
deriving DecidableEq, Repr

namespace Enumeration

/-- The enumeration with the items, which fails if a listed member cannot be printed. -/
def ofItems (flags : Bool) (items : List (String × EnumValue)) : Except Error Enumeration :=
  if h : ∀ m ∈ (MemberTable.ofItems flags items).members, m.2.isPrintable = true then
    .ok { MemberTable.ofItems flags items with printable := h }
  else .error (.fault .longNumber)

/-- The enumeration with the items, none of which is a long number. -/
def ofList (items : List (String × EnumValue))
    (h : ∀ m ∈ (MemberTable.ofItems false items).members, m.2.isPrintable = true := by decide) :
    Enumeration :=
  { MemberTable.ofItems false items with printable := h }

end Enumeration

end ApiShape
