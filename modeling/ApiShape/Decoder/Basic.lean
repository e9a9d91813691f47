import ApiShape.Converter.Wrapper
import ApiShape.Multipart.Reader
import ApiShape.Value.Streams

/-!
Decoding of raw values into records. The raw values are texts, lists of texts and streams under
their wire names. Decoding is all or nothing: the first field that cannot be bound fails the whole.
-/

namespace ApiShape

/-- What decoding is told: the declarations, how deep wrappers may nest, and the limits on
uploads. -/
structure Decoder where
  env : Environment
  budget : Nat := 1000
  limits : Multipart.Limits := {}

/-! ## Raw values -/

/-- The values that a raw value stands for: null for none, a list or a tuple for its items. -/
def Value.items : Value → List Value
  | .null => []
  | .list items | .tuple items => items
  | .record ⟨_, .namedTuple, _⟩ fields => fields.map (·.2)
  | v => [v]

/-- The first of the values that a raw value stands for; null if there is none. -/
def Value.first (v : Value) : Value := v.items.headD .null

/-- The first of the values is one of them, unless it is null. -/
theorem Value.items_eq_first_cons {v : Value} (hne : v.first ≠ .null) :
    ∃ rest, v.items = v.first :: rest := by
  unfold first at hne ⊢
  cases hitems : v.items with
  | nil =>
    rw [hitems] at hne
    exact absurd rfl hne
  | cons w rest => exact ⟨rest, rfl⟩

/-- The content type and the stream of a value that has one. -/
def Value.content? : Value → Option (Option String × Stream)
  | .bytes _ _ data => some (none, { content := data })
  | .content contentType s | .payload contentType _ s => some (contentType, s)
  | .stream s => some (none, s)
  | _ => none

/-- The class behind a type. -/
def Descriptor.class? (d : Descriptor) : Option NamedClass :=
  match d.origin with
  | .named c => some c
  | _ => none

namespace Decoder

/-- Turns the value of the field `name` into the stream type `d`. -/
def adapt (dec : Decoder) (name : String) (d : Descriptor) (v : Value) : Action Value := do
  match v.content? with
  | none => throw (.parse name v (.described d) "expected a binary payload" none)
  | some (contentType, stream) =>
    match d.class?.bind fun c => (dec.env.streamForm? c).map fun form => (c, form) with
    | some (_, .payload) =>
      match v with
      | .payload .. => return v
      | _ => return .payload contentType none stream
    | some (_, .content) =>
      match v with
      | .content .. | .payload .. => return v
      | _ => return .content contentType stream
    | some (c, .bytes mutable) => return .bytes c mutable (← Action.readAll stream)
    | _ => return .stream stream

/-! ## Fields -/

/-- The value of a field without raw value: its default, else null if it admits that, else the
default of its converter. -/
def absent (f : Field) (converter : Option Converter) : Action Value :=
  match f.default with
  | some default => Action.ofExcept default.value
  | none =>
    if f.type.nullable then return .null
    else match converter.bind (·.default) with
      | some v => return v
      | none => throw (.requiredField f.wireName)

/-- Converts the raw value of a field to the type `d`, that of the field or of its items. -/
def convert (f : Field) (d : Descriptor) (c : Converter) (raw : Value) : Action Value := do
  match raw with
  | .text s =>
    match ← Action.ofExcept (c.convert s d.nullable) with
    | .value v => return v
    | .failure reason => throw (.parse f.wireName raw (.described d) reason.message (some reason))
  | _ => throw (.parse f.wireName raw (.described d) "expected a text value" none)

/-- The value of a field that is neither stream nor array. -/
def scalar (dec : Decoder) (f : Field) (raw : Value) : Action Value := do
  let c := (← dec.env.converterFor dec.budget f.type).converter
  match raw with
  | .null => absent f (some c)
  | _ => convert f f.type c raw

/-- The value of a stream field. -/
def streamed (dec : Decoder) (f : Field) (raw : Value) : Action Value :=
  match raw with
  | .null => absent f none
  | _ => dec.adapt f.wireName f.type raw

/-- The items of an array field. -/
def itemValues (dec : Decoder) (f : Field) (item : Descriptor) (raw : List Value) :
    Action (List Value) := do
  if dec.env.kind item = .stream then raw.mapM (dec.adapt f.wireName item)
  else
    let c := (← dec.env.converterFor dec.budget item).converter
    raw.mapM (convert f item c)

/-- The container of an array type. -/
def containerOf (d : Descriptor) : Container :=
  match d.origin with
  | .container c => c
  | _ => .list

/-- The value of an array field. Without raw values it is the default, else null if the field admits
that, else the empty container. -/
def sequence (dec : Decoder) (f : Field) (raw : List Value) : Action Value := do
  let item ← Action.ofExcept (dec.env.item f.type.nonNull)
  let values ← dec.itemValues f item raw
  match values, f.default, f.type.nullable with
  | [], some default, _ => Action.ofExcept default.value
  | [], none, true => return .null
  | _, _, _ => Action.ofExcept (Value.collect (containerOf f.type) values)

def field (dec : Decoder) (f : Field) (raw : Value) : Action Value :=
  match dec.env.kind f.type with
  | .stream => dec.streamed f raw.first
  | .array => dec.sequence f raw.items
  | _ => dec.scalar f raw.first

/-! ## Records -/

/-- Counts and reports a failure that request data has caused. -/
def failed (d : Descriptor) (e : Error) : Action Unit := do
  if e.isClient then
    Action.count .decodeFailures
    Action.report (.decodingFailed d e.message)

/-- The type of a type expression, null aside. -/
def described (a : TypeExpr) : Action Descriptor :=
  Action.ofExcept ((describe a).mapError .unresolvedReference |>.map (·.nonNull))

def target (dec : Decoder) (a : TypeExpr) : Action Descriptor := do
  let d ← described a
  if dec.env.kind d ≠ .object then throw (.unhandled d "not a parameter set or form type")
  return d

/-- The values of all fields by the constructor's keys. -/
def fieldValues (dec : Decoder) (d : Descriptor) (raw : Table String Value) :
    Action (Table String Value) := do
  let fields ← Action.ofExcept (dec.env.fields d)
  let values ← fields.mapM fun f => do
    return (f.key, ← dec.field f ((raw.get? f.wireName).getD .null))
  return Table.ofList values

def decodeRecord (dec : Decoder) (d : Descriptor) (raw : Table String Value) : Action Value := do
  let values ← Action.onError (dec.fieldValues d raw) (failed d)
  Action.ofExcept (dec.env.construct d.origin values.entries)

/-- Decodes raw values into a record; null is decoded to null. -/
def decode (dec : Decoder) (a : TypeExpr) (raw : Table String Value) : Action Value := do
  if a = .null then return .null
  dec.decodeRecord (← dec.target a) raw

end Decoder

end ApiShape
