import ApiShape.Error

/-!
Equality and order of values, and the sets built on them. Numbers are compared by size whatever
their type, moments by the instant they denote; a NaN equals nothing.
-/

namespace ApiShape

open Number Time

/-! ## Numbers -/

namespace Number.Decimal

private def stripZeros : (fuel : Nat) → Nat → Int → Nat × Int
  | 0, c, e => (c, e)
  | fuel + 1, c, e => if c % 10 = 0 then stripZeros fuel (c / 10) (e + 1) else (c, e)

/-- The equal decimal whose coefficient does not end in zero; zero is positive with exponent 0. -/
def normal (d : Decimal) : Decimal :=
  if d.coefficient = 0 then ⟨false, 0, 0⟩
  else
    let (c, e) := stripZeros (digitCount d.coefficient) d.coefficient d.exponent
    ⟨d.negative, c, e⟩

private def sizeLt (a b : Decimal) : Bool :=
  if b.coefficient = 0 then false
  else if a.coefficient = 0 then true
  else if a.adjusted ≠ b.adjusted then a.adjusted < b.adjusted
  else
    let low := min a.exponent b.exponent
    a.coefficient * tenTo (a.exponent - low).toNat < b.coefficient * tenTo (b.exponent - low).toNat

/-- The first decimal is less than the second. -/
def lt (a b : Decimal) : Bool :=
  let a := a.normal
  let b := b.normal
  match a.negative, b.negative with
  | false, false => sizeLt a b
  | true, true => sizeLt b a
  | true, false => true
  | false, true => false

/-- The decimal of a whole number. -/
def ofInt (n : Int) : Decimal := ⟨n < 0, n.natAbs, 0⟩

end Number.Decimal

/-- A real number or an infinity. -/
inductive Magnitude where
  | finite (d : Decimal)
  | infinite (negative : Bool)
deriving DecidableEq, Repr

/-- The first magnitude is less than the second. -/
def Magnitude.lt : Magnitude → Magnitude → Bool
  | finite a, finite b => a.lt b
  | infinite true, infinite true => false
  | infinite true, _ => true
  | infinite false, _ => false
  | finite _, infinite negative => !negative

namespace Value

/-- The value is a number, perhaps not a real one. -/
def isNumber : Value → Bool
  | bool _ | integer .. | double .. | decimal _ => true
  | _ => false

/-- The size of a number; a NaN has none. -/
def magnitude? : Value → Option Magnitude
  | bool b => some (.finite (.ofInt (if b then 1 else 0)))
  | integer _ n => some (.finite (Decimal.ofInt n).normal)
  | decimal d => some (.finite d.normal)
  | double _ (.finite negative m e) =>
    some (.finite (Decimal.normal ⟨negative, Double.exactCoefficient m e, -1074⟩))
  | double _ (.infinite negative) => some (.infinite negative)
  | _ => none

/-! ## Equality -/

/-- The moment of a wall clock time in microseconds of UTC. -/
def momentOf (wall : DateTime) (offset : Offset) : Int := wall.microseconds - offset * 1000000

/-- Zoned times in one zone are compared by the wall clock. Elsewhere the instants count, but a time
whose offset hangs on the fold equals no time of another zone. -/
def zonedSame (s t : ZonedDateTime) : Bool :=
  if s.zone.isSome && s.zone == t.zone then s.wall = t.wall
  else !s.foldsDiffer && !t.foldsDiffer && momentOf s.wall s.offset == momentOf t.wall t.offset

mutual

/-- The values are equal. -/
def same : Value → Value → Bool
  | null, null => true
  | text s, text t => s = t
  | uuid u, uuid v => u = v
  | date d, date e => d = e
  | time s, time t => s = t
  | dateTime s, dateTime t => s = t
  | offsetTime s, offsetTime t =>
    (s.time.seconds : Int) - s.offset == t.time.seconds - t.offset &&
      s.time.microsecond == t.time.microsecond
  | offsetDateTime s, offsetDateTime t => momentOf s.wall s.offset == momentOf t.wall t.offset
  | zonedDateTime s, zonedDateTime t => zonedSame s t
  | instant s, instant t => s = t
  | member c n _, member d m _ => c = d && n = m
  | bytes _ _ a, bytes _ _ b => a = b
  | stream s, stream t => s.handle.isSome && s.handle = t.handle
  | list xs, list ys => sameAll xs ys
  | tuple xs, tuple ys => sameAll xs ys
  | tuple xs, record d fs => d.form = .namedTuple && sameAll xs (fs.map (·.2))
  | record c fs, tuple ys => c.form = .namedTuple && sameFields fs ys
  | record c fs, record d gs =>
    (c.origin = d.origin || (c.form = .namedTuple && d.form = .namedTuple)) &&
      sameFields fs (gs.map (·.2))
  | set _ xs, set _ ys => xs.length = ys.length && allIn xs ys
  | a, b =>
    match a.magnitude?, b.magnitude? with
    | some x, some y => x = y
    | _, _ => false

/-- The values of two lists are equal one by one. -/
def sameAll : List Value → List Value → Bool
  | [], [] => true
  | a :: as, b :: bs => same a b && sameAll as bs
  | _, _ => false

/-- The fields have the values of the list one by one. -/
def sameFields : List (String × Value) → List Value → Bool
  | [], [] => true
  | (_, a) :: as, b :: bs => same a b && sameFields as bs
  | _, _ => false

/-- Every value of the first list is equal to one of the second. -/
def allIn : List Value → List Value → Bool
  | [], _ => true
  | a :: as, bs => bs.any (same a) && allIn as bs

end

/-! ## Hashing -/

mutual

/-- The name of the class of the first part that cannot be hashed. -/
def unhashable? : Value → Option String
  | list _ => some "list"
  | set frozen _ => if frozen then none else some "set"
  | bytes c mutable _ => if mutable then some c.name else none
  | content .. => some "ContentStream"
  | payload .. => some "BinaryPayload"
  | tuple items => unhashableIn? items
  | record c fields => if c.hashable then unhashableField? fields else some c.origin.name
  | _ => none

/-- The name of the class of the first part of the values that cannot be hashed. -/
def unhashableIn? : List Value → Option String
  | [] => none
  | v :: vs => (unhashable? v).or (unhashableIn? vs)

/-- The name of the class of the first part of the fields that cannot be hashed. -/
def unhashableField? : List (String × Value) → Option String
  | [] => none
  | (_, v) :: rest => (unhashable? v).or (unhashableField? rest)

end

/-- The values without those that equal an earlier one. -/
def distinct (items : List Value) : List Value :=
  items.foldl (fun kept v => if kept.any (same · v) then kept else kept ++ [v]) []

def setOf (frozen : Bool) (items : List Value) : Except Error Value :=
  match unhashableIn? items with
  | some className => .error (.fault (.unhashable className))
  | none => .ok (set frozen (distinct items))

/-- The container filled with the values. -/
def collect (c : Container) (items : List Value) : Except Error Value :=
  match c with
  | .list => .ok (list items)
  | .tuple => .ok (tuple items)
  | .set => setOf false items
  | .frozenset => setOf true items

/-! ## Order -/

private def textLt (s t : String) : Bool := s < t

/-- The first value is less than the second; `operator` is the comparison that a fault names. -/
def lt (operator : String) (a b : Value) : Except Error Bool :=
  let incomparable := Except.error (.fault (.notComparable operator a.className b.className))
  if a.isNumber && b.isNumber then
    match a.magnitude?, b.magnitude? with
    | some x, some y => .ok (x.lt y)
    | _, _ => .ok false
  else match a, b with
    | text s, text t => .ok (textLt s t)
    | date d, date e => .ok (d.ordinal < e.ordinal)
    | time s, time t => .ok (s.microseconds < t.microseconds)
    | dateTime s, dateTime t => .ok (s.microseconds < t.microseconds)
    | offsetDateTime s, offsetDateTime t =>
      .ok (momentOf s.wall s.offset < momentOf t.wall t.offset)
    | zonedDateTime s, zonedDateTime t => .ok (momentOf s.wall s.offset < momentOf t.wall t.offset)
    | instant s, instant t => .ok (s.utc.microseconds < t.utc.microseconds)
    | uuid u, uuid v => .ok (u.number < v.number)
    | bytes _ _ s, bytes _ _ t => .ok (s < t)
    | _, _ => incomparable

/-- The number of items or characters of a value. -/
def length (v : Value) : Except Error Nat :=
  match v with
  | text s => .ok s.length
  | bytes _ _ data => .ok data.length
  | list items | tuple items | set _ items => .ok items.length
  | record c fields =>
    if c.form = .namedTuple then .ok fields.length else .error (.fault (.noLength v.className))
  | _ => .error (.fault (.noLength v.className))

end Value

end ApiShape
