import ApiShape.Http.Cookie
import ApiShape.Http.Query
import ApiShape.Http.Url
import ApiShape.Value.Streams

/-!
Requests. Parameters keep every value in order of appearance, and the names of headers are in lower
case. The body is a stream that can be taken in chunks once.
-/

namespace ApiShape.Http

/-- What a request is made from. -/
structure RawRequest where
  method : String := "GET"
  url : String := "/"
  headers : List (String × String) := []
  pathParams : Table String String := ∅
  body : Stream := { content := [] }
  chunkSize : Int := 65536

structure Request where
  method : String
  path : String
  query : Table String (List String)
  headerValues : Table String (List String)
  pathParams : Table String String
  body : Stream
  chunkSize : Int

namespace Request

def read (raw : RawRequest) : Except Error Request := do
  let url ← (Url.read raw.url).mapError fun f => .fault (.host f)
  return {
    method := upperCase raw.method
    path := url.path
    query := Query.read url.query
    headerValues := Table.group (raw.headers.map fun (name, value) => (lowerCase name, value))
    pathParams := raw.pathParams
    body := raw.body
    chunkSize := raw.chunkSize }

def headers (r : Request) : Table String String := r.headerValues.mapValues (·.getLastD "")

/-- The content type of the body. -/
def contentType (r : Request) : Option String := r.headers.get? "content-type"

def cookies (r : Request) : Except Error (Table String String) :=
  Cookie.read ((r.headers.get? "cookie").getD "")

end Request

/-- The bytes in chunks of `size`; the last one may be shorter. -/
def chunksOf (size : Nat) (bytes : List UInt8) : List (List UInt8) :=
  if _h : 0 < size ∧ bytes ≠ [] then
    bytes.take size :: chunksOf size (bytes.drop size)
  else []
termination_by bytes.length
decreasing_by
  have := List.length_pos_iff.2 _h.2
  simp only [List.length_drop]; omega

/-- The bytes in chunks of a size that may be unfit: zero is refused, a negative size gives none. -/
def chunksBy (size : Int) (bytes : List UInt8) : Except Error (List (List UInt8)) :=
  if size = 0 then .error (.fault .chunkSize) else .ok (chunksOf size.toNat bytes)

/-- The body in chunks. A body that has been asked for its chunks before has none left. -/
def Request.chunks (r : Request) : Action (List (List UInt8)) := do
  let taken := r.body.handle.any (← get).spent.contains
  if taken then return []
  Action.ofExcept (chunksBy r.chunkSize (← Action.readAll r.body))

end ApiShape.Http
