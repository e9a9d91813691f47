import ApiShape.Multipart.Reader
import ApiShape.Value.Streams

/-!
Whole forms. The parts of a body become values by name; the values of a name that comes more than
once make up a list in the order of the parts.
-/

namespace ApiShape.Multipart

def addValue (values : Table String Value) (name : String) (v : Value) : Table String Value :=
  values.set name <|
    match values.get? name with
    | none => v
    | some (.list earlier) => .list (earlier ++ [v])
    | some earlier => .list [earlier, v]

/-- Adds the value of a part. Parts without a name and file inputs without a file are left out. -/
def addPart (values : Table String Value) (p : Part) : Action (Table String Value) := do
  Action.count .multipartParts
  match p.name with
  | none =>
    Action.report .unnamedPart
    return values
  | some name =>
    if p.isEmptyUpload then
      Action.report (.emptyUpload name)
      return values
    let v ← Action.ofExcept (p.valueIn (← get).charsets)
    return addValue values name (← Action.openAll v)

/-- Feeds the chunks to the reader and adds the values of the parts. -/
def Reader.drain (r : Reader) (values : Table String Value) :
    List (List UInt8) → Action (Table String Value)
  | [] => do
    Action.ofExcept r.close
    return values
  | chunk :: rest => do
    let (parts, r) := r.feed chunk
    r.drain (← (← Action.ofExcept parts).foldlM addPart values) rest

/-- Reads a whole form. The chunks are asked for only once the boundary is known to be fit. -/
def readForm (boundary : String) (limits : Limits) (chunks : Action (List (List UInt8))) :
    Action (Table String Value) := do
  let r ← Action.ofExcept (Reader.forBoundary boundary limits)
  r.drain ∅ (← chunks)

end ApiShape.Multipart
