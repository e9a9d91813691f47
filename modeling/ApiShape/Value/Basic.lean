import ApiShape.Number.Double
import ApiShape.Time.Iso
import ApiShape.Types.Descriptor
import ApiShape.Uuid

/-!
The values that raw wire data is turned into. A stream holds the bytes from its position to its end;
values that were given the same stream object carry the same handle.
-/

namespace ApiShape

open Number Time

/-- A binary stream. Streams with one handle are one object; without a handle it is its own. -/
structure Stream where
  content : List UInt8
  handle : Option Nat := none
deriving DecidableEq, Repr

/-- The value of an enumeration's member. -/
inductive EnumValue where
  | null
  | bool (b : Bool)
  | int (n : Int)
  | text (s : String)
deriving DecidableEq, Repr

/-- How a class of records is declared. -/
inductive RecordForm where
  | dataclass
  | model
  | namedTuple
deriving DecidableEq, Repr

/-- The class of a record: its origin, how it is declared, and whether its instances hash. -/
structure RecordClass where
  origin : Origin
  form : RecordForm
  hashable : Bool
deriving DecidableEq, Repr

inductive Value where
  | null
  | bool (b : Bool)
  | text (s : String)
  | integer (type : IntegerType) (n : Int)
  | double (single : Bool) (x : Double)
  | decimal (d : Decimal)
  | uuid (u : Uuid)
  | date (d : Date)
  | time (t : TimeOfDay)
  | dateTime (t : DateTime)
  | offsetTime (t : OffsetTime)
  | offsetDateTime (t : OffsetDateTime)
  | zonedDateTime (t : ZonedDateTime)
  | instant (t : Instant)
  | member (enum : ClassRef) (name : String) (value : EnumValue)
  | bytes (type : NamedClass) (mutable : Bool) (data : List UInt8)
  | content (contentType : Option String) (stream : Stream)
  | payload (contentType filename : Option String) (stream : Stream)
  | stream (s : Stream)
  | list (items : List Value)
  | tuple (items : List Value)
  | set (frozen : Bool) (items : List Value)
  | record (class_ : RecordClass) (fields : List (String × Value))
deriving Repr, Inhabited

namespace Value

def plainBytes (data : List UInt8) : Value := bytes (.builtin .bytes) false data

/-- A text, or null. -/
def ofText? : Option String → Value
  | some s => text s
  | none => null

def className : Value → String
  | null => "NoneType"
  | bool _ => "bool"
  | text _ => "str"
  | integer .unbounded _ => "int"
  | integer .int8 _ => "Int8"
  | integer .int16 _ => "Int16"
  | integer .int32 _ => "Int32"
  | integer .int64 _ => "Int64"
  | double single _ => if single then "Float32" else "float"
  | decimal _ => "decimal.Decimal"
  | uuid _ => "UUID"
  | date _ => "datetime.date"
  | time _ => "datetime.time"
  | dateTime _ => "datetime.datetime"
  | offsetTime _ => "OffsetTime"
  | offsetDateTime _ => "OffsetDateTime"
  | zonedDateTime _ => "ZonedDateTime"
  | instant _ => "Instant"
  | member c _ _ => c.name
  | bytes c _ _ => c.name
  | content .. => "ContentStream"
  | payload .. => "BinaryPayload"
  | stream _ => "_io.BytesIO"
  | list _ => "list"
  | tuple _ => "tuple"
  | set frozen _ => if frozen then "frozenset" else "set"
  | record c _ => c.origin.name

end Value

end ApiShape
