import ApiShape.Decoder.Basic
import ApiShape.Multipart.Form

/-!
Decoding of whole bodies: forms in multipart bodies, and raw bodies bound to a stream type or to a
record of a single stream.
-/

namespace ApiShape

namespace Decoder

/-- Decodes a multipart body into a record. -/
def decodeForm (dec : Decoder) (a : TypeExpr) (contentType : Option String)
    (chunks : Action (List (List UInt8))) : Action Value := do
  if a = .null then return .null
  let d ← dec.target a
  let values ← Action.onError (readBody chunks) (failed d)
  dec.decodeRecord d values
where
  /-- The values of the form. -/
  readBody (chunks : Action (List (List UInt8))) : Action (Table String Value) := do
    let boundary ← Action.ofExcept (Multipart.boundaryOf contentType)
    Multipart.readForm boundary dec.limits chunks

/-- The content of a raw body. The content type of the request counts unless the body has one. -/
def bodyContent (contentType : Option String) : Value → Value
  | .bytes _ _ data => .content contentType { content := data }
  | .stream s => .content contentType s
  | v => v

/-- The only field of a record of a single stream. -/
def onlyStream? (env : Environment) (d : Descriptor) : Except Error (Option Field) := do
  if env.kind d ≠ .object then return none
  match ← env.fields d with
  | [only] => return if env.kind only.type = .stream then some only else none
  | _ => return none

/-- Decodes a raw body. Without accepted types every content type will do. -/
def decodeRaw (dec : Decoder) (a : TypeExpr) (body : Value) (contentType : Option String)
    (accepted : List String) : Action Value := do
  if a = .null then return .null
  let d ← described a
  if !accepted.isEmpty && !mediaTypeMatches contentType accepted then
    Action.onError (throw (.unsupportedMediaType contentType accepted)) (failed d)
  let content := bodyContent contentType body
  if dec.env.kind d = .stream then dec.adapt "body" d content
  else match ← Action.ofExcept (onlyStream? dec.env d) with
    | none => throw (.unhandled d "binary bodies need a single stream field")
    | some only =>
      let v ← dec.adapt only.wireName only.type content
      Action.ofExcept (dec.env.construct d.origin [(only.key, v)])

end Decoder

end ApiShape
