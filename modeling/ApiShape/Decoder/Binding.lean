import ApiShape.Decoder.Body
import ApiShape.Http.Request

/-!
Binding of requests. Every field is looked up in its own place: the query unless told otherwise, the
path, the headers or the cookies. The header of an array field holds its items between commas.
-/

namespace ApiShape

open Http

namespace Decoder

/-- The items between the commas of header values. -/
def headerItems (values : List String) : List String :=
  values.flatMap fun v =>
    (Text.pieces ',' v.toList).map fun item => String.ofList (Text.trim item)

/-- The raw values of a field in its place on the request. -/
def lookup (dec : Decoder) (r : Request) (f : Field) : Except Error (List String) :=
  match f.location with
  | .path => .ok (r.pathParams.get? f.wireName).toList
  | .cookie => do return ((← r.cookies).get? f.wireName).toList
  | .header =>
    let values := (r.headerValues.get? (lowerCase f.wireName)).getD []
    .ok (if dec.env.kind f.type = .array then headerItems values else values)
  | .query => .ok ((r.query.get? f.wireName).getD [])

/-- The raw values of the fields that the request has values for, by wire name. -/
def collect (dec : Decoder) (r : Request) (a : TypeExpr) :
    Action (Table String (List String)) := do
  let d ← Action.ofExcept ((describe a).mapError .unresolvedReference)
  let fields ← Action.ofExcept (dec.env.fields d)
  let found ← fields.mapM fun f => do
    return (f.wireName, ← Action.ofExcept (dec.lookup r f))
  return Table.ofList (found.filter fun (_, values) => !values.isEmpty)

/-- Binds the parameters of a request. -/
def bind (dec : Decoder) (r : Request) (a : TypeExpr) : Action Value := do
  if a = .null then return .null
  let raw ← dec.collect r a
  dec.decode a (raw.mapValues fun values => .list (values.map .text))

/-- Binds the form in the body of a request, which is taken in chunks. -/
def bindForm (dec : Decoder) (r : Request) (a : TypeExpr) : Action Value :=
  dec.decodeForm a r.contentType r.chunks

def bindRaw (dec : Decoder) (r : Request) (a : TypeExpr) (accepted : List String) :
    Action Value :=
  dec.decodeRaw a (.plainBytes r.body.content) r.contentType accepted

end Decoder

end ApiShape
