import ApiShape.State

/-!
Converters of wrappers. The converter of a wrapper is that of the wrapped type with the wrapper's
constructor put behind it; it is made once and kept. A chain of wrappers that does not end uses up
the budget.
-/

namespace ApiShape

namespace Environment

/-- Builds a wrapper from the value that it wraps. A new name for a type adds nothing. -/
def wrap (env : Environment) (d : Descriptor) (v : Value) : Except Error Value :=
  match env.newtype? d.origin with
  | some _ => .ok v
  | none => do
    match ← env.fields d with
    | [only] => env.construct d.origin [(only.key, v)]
    | _ => .error (.fault (.notAWrapper d))

/-- The error that the wrapped type has no converter, caused by `e`. -/
def innerUnhandled (inner : Descriptor) (e : Error) : Error :=
  match e with
  | .unhandledType .. => .unhandledType (.described inner.nonNull) none (some e)
  | e => e

/-- Installs the converter derived for a wrapper and remembers it. -/
def keepDerived (d : Descriptor) (c : Converter) : Action Installed := do
  let (registry, installed) := (← get).registry.install d c
  modify fun s => { s with registry, derived := s.derived.set d installed }
  return installed

/-- The converter of a type, through wrappers where needed. -/
def converterFor (env : Environment) : (budget : Nat) → Descriptor → Action Installed
  | 0, _ => throw .exhausted
  | budget + 1, d => do
    let d := d.nonNull
    if env.kind d ≠ .wrapper then Action.resolve env d
    else match (← get).derived.get? d with
      | some installed => return installed
      | none =>
        let inner ← Action.ofExcept (env.unwrap d)
        let below ← tryCatch (converterFor env budget inner) fun e => throw (innerUnhandled inner e)
        let source := below.converter
        let derived ← Action.ofExcept (source.map (env.wrap d) d)
        if source.default.isSome && derived.default.isNone then
          Action.report (.defaultRejected d source.target)
        let installed ← keepDerived d derived
        Action.report (.converterDerived d inner)
        Action.count .wrapperConverters
        return installed

/-- The converter of a wrapper. -/
def derive (env : Environment) (budget : Nat) (d : Descriptor) : Action Installed := do
  if env.kind d ≠ .wrapper then throw (.fault (.notAWrapper d.nonNull))
  env.converterFor budget d

end Environment

end ApiShape
