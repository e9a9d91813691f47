import ApiShape.Declaration.Field
import ApiShape.Header

/-!
Converters from text to values. A converter never fails for unfit text: it falls back to null or to
its default where the target allows that, and reports the reason elsewhere.
-/

namespace ApiShape

/-- A converter of texts to values of a type. `lenient` lets unfit text become the default; `strict`
forbids every fallback. -/
structure Converter where
  target : Descriptor
  parse : String → Except Error Value
  default : Option Value := none
  schema : Schema := .string
  lenient : Bool := false
  strict : Bool := false

/-- What a conversion comes to: a value, or the reason why there is none. -/
inductive Conversion where
  | value (v : Value)
  | failure (reason : Error)
deriving Repr

namespace Converter

/-- Converts a text. Only errors that do not speak of the text are raised. -/
def convert (c : Converter) (raw : String) (nullable : Bool) : Except Error Conversion :=
  match c.parse raw with
  | .ok v => .ok (.value v)
  | .error e =>
    if !e.isUnfitText then .error e
    else if c.strict then .ok (.failure e)
    else if nullable then .ok (.value .null)
    else match c.lenient, c.default with
      | true, some d => .ok (.value d)
      | _, _ => .ok (.failure e)

/-- The converter that builds on the values of `c`. A default that cannot be built on is dropped. -/
def map (c : Converter) (build : Value → Except Error Value) (target : Descriptor) :
    Except Error Converter :=
  let mapped (default : Option Value) : Converter :=
    { c with target, parse := fun raw => c.parse raw >>= build, default }
  match c.default with
  | none => .ok (mapped none)
  | some d =>
    match build d with
    | .ok v => .ok (mapped (some v))
    | .error e => if e.isUnfitText then .ok (mapped none) else .error e

end Converter

end ApiShape
