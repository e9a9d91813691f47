import ApiShape.Converter.Leaf

/-!
The registry of converters by type. Nullability plays no part in it, the latest registration of a
type counts, and enumerations get their converter when they are first asked for.
-/

namespace ApiShape

open Time

/-- A converter as it was installed. Two entries are the same installation if their stamps agree. -/
structure Installed where
  converter : Converter
  stamp : Nat

/-- The converters in use. -/
structure Registry where
  lenient : Bool := true
  entries : Table Descriptor Installed := ∅
  issued : Nat := 0

namespace Registry

/-- Puts an installed converter under a type. -/
def add (r : Registry) (d : Descriptor) (i : Installed) : Registry :=
  { r with entries := r.entries.set d.nonNull i }

/-- Installs a converter under a type. -/
def install (r : Registry) (d : Descriptor) (c : Converter) : Registry × Installed :=
  let i : Installed := ⟨c, r.issued⟩
  ({ r with issued := r.issued + 1 }.add d i, i)

/-- Installs a converter made from a parser. -/
def register (r : Registry) (d : Descriptor) (parse : String → Except Error Value)
    (default : Option Value) (schema : Schema) (lenient strict : Bool) : Registry × Installed :=
  r.install d { target := d.nonNull, parse, default, schema, lenient, strict }

/-- A registry without converters. -/
def empty (lenient : Bool) : Registry := { lenient }

/-- The registry of the leaf types that every program knows. -/
def standard (zones : ZoneDirectory) (lenient : Bool) : Registry :=
  (leafConverters zones lenient).foldl (fun r c => (r.install c.target c).1) (empty lenient)

/-- The registry has or can make a converter for the type. -/
def handles (r : Registry) (env : Environment) (d : Descriptor) : Bool :=
  r.entries.contains d.nonNull || env.kind d == .enum

/-- The converter of a type. One made for an enumeration is kept. -/
def resolve (r : Registry) (env : Environment) (d : Descriptor) :
    Except Error (Registry × Installed) :=
  let key := d.nonNull
  match r.entries.get? key with
  | some i => .ok (r, i)
  | none =>
    match env.enumeration? key.origin with
    | some (ref, e, strict) => .ok (r.install key (e.converter { origin := key.origin } ref strict))
    | none => .error (.unhandled key none)

/-- The types with a converter. -/
def types (r : Registry) : List Descriptor := r.entries.keys

end Registry

end ApiShape
