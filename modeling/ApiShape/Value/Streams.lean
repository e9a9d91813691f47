import ApiShape.State
import ApiShape.Value.Basic

/-!
Streams as objects that are read once. A stream that is opened gets a handle; reading it to its end
spends the handle, and every value that holds the handle then shows an empty stream.
-/

namespace ApiShape

namespace Value

variable {m : Type → Type} [Monad m]

mutual

/-- The value with every stream in it replaced by its image. -/
def mapStreamsM (f : Stream → m Stream) : Value → m Value
  | content contentType s => do return content contentType (← f s)
  | payload contentType filename s => do return payload contentType filename (← f s)
  | stream s => do return stream (← f s)
  | list items => do return list (← mapStreamsIn f items)
  | tuple items => do return tuple (← mapStreamsIn f items)
  | set frozen items => do return set frozen (← mapStreamsIn f items)
  | record c fields => do return record c (← mapStreamsOf f fields)
  | v => return v

/-- The values with every stream in them replaced by its image. -/
def mapStreamsIn (f : Stream → m Stream) : List Value → m (List Value)
  | [] => return []
  | v :: vs => do return (← mapStreamsM f v) :: (← mapStreamsIn f vs)

/-- The fields with every stream in their values replaced by its image. -/
def mapStreamsOf (f : Stream → m Stream) : List (String × Value) → m (List (String × Value))
  | [] => return []
  | (name, v) :: rest => do return (name, ← mapStreamsM f v) :: (← mapStreamsOf f rest)

end

end Value

/-- A stream as it stands: empty once it has been read. -/
def State.current (s : State) (stream : Stream) : Stream :=
  match stream.handle with
  | some h => if s.spent.contains h then { stream with content := [] } else stream
  | none => stream

/-- A value whose streams are shown as they stand. -/
def State.settle (s : State) (v : Value) : Value := Id.run (v.mapStreamsM fun t => s.current t)

namespace Action

/-- Gives a stream a handle of its own, unless it has one. -/
def openStream (s : Stream) : Action Stream :=
  match s.handle with
  | some _ => return s
  | none => do
    let handle := (← get).opened
    modify fun st => { st with opened := handle + 1 }
    return { s with handle }

/-- Gives every stream in a value a handle of its own. -/
def openAll (v : Value) : Action Value := v.mapStreamsM openStream

/-- Reads a stream to its end. -/
def readAll (s : Stream) : Action (List UInt8) := do
  let bytes := ((← get).current s).content
  modify fun st => { st with spent := s.handle.toList ++ st.spent }
  return bytes

end Action

end ApiShape
