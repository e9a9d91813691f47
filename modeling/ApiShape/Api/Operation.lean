import ApiShape.Api.Basic

/-!
Published descriptions of operations: their parameters, request bodies and responses. A record of a
single stream is published as raw bytes unless the media type carries structured data.
-/

namespace ApiShape

namespace Api

/-- The media type of JSON. -/
def json : String := "application/json"

/-- The media types of forms. -/
def formTypes : List String := ["multipart/form-data", "application/x-www-form-urlencoded"]

/-- The published schema of a described type. -/
def schemaOf (api : Api) (d : Descriptor) : Action Document := do
  return (← api.blueprint.build d).render api.settings.refBase

/-- A parameter. Those in the path are always required. -/
def parameter (api : Api) (f : Field) : Action Document := do
  let required := f.location == .path || !f.type.nullable
  let schema ← api.schemaOf f.type
  let described := (chooseText f.description none).toList.map fun text =>
    ("description", .text text)
  return .object ([("name", .text f.wireName), ("in", .text f.location.name),
    ("required", .flag required), ("schema", schema)] ++ described)

/-- The parameters that the fields of a type make up. -/
def parameters (api : Api) (a : TypeExpr) : Action Document := do
  if a = .null then return .list []
  let d ← described a
  let fields ← Action.ofExcept (api.env.fields d)
  return .list (← fields.mapM api.parameter)

/-- Bodies of the media type carry structured data. -/
def isStructured (mediaType : String) : Bool :=
  mediaType == json || formTypes.contains mediaType || "+json".toList.isSuffixOf mediaType.toList

/-- The published schema of a body. -/
def bodySchema (api : Api) (a : TypeExpr) (mediaType : String) : Action Document := do
  if isStructured mediaType then return ← api.schema a
  let d ← described a
  match ← Action.ofExcept (Decoder.onlyStream? api.env d) with
  | some _ => return Schema.binary.render api.settings.refBase
  | none => api.schema a

/-- A request body in each of the media types. -/
def requestBody (api : Api) (a : TypeExpr) (mediaTypes : List String) : Action Document := do
  let content ← mediaTypes.mapM fun m => do
    return (m, Document.object [("schema", ← api.bodySchema a m)])
  let d ← described a
  return .object [("content", .object (Table.ofList content).entries),
    ("required", .flag !d.nullable)]

/-- A response; null stands for one without content. -/
def response (api : Api) (a : TypeExpr) (description mediaType : String) : Action Document := do
  let described := ("description", Document.text description)
  if a = .null then return .object [described]
  let content := Document.object [("schema", ← api.bodySchema a mediaType)]
  return .object [described, ("content", .object [(mediaType, content)])]

end Api

end ApiShape
