/-!
The classes that types are made of: those known to every program, and those that a program declares.
-/

namespace ApiShape

/-- The classes known to every program, containers aside. -/
inductive Builtin where
  | int
  | int8
  | int16
  | int32
  | int64
  | str
  | bool
  | float
  | float32
  | complex
  | object
  | type
  | bytes
  | bytearray
  | deque
  | decimal
  | uuid
  | date
  | time
  | dateTime
  | offsetTime
  | offsetDateTime
  | zonedDateTime
  | instant
  | contentStream
  | binaryPayload
  | binaryFile
  | memoryFile
  | rawFile
deriving DecidableEq, Repr

/-- The module and the name of a class known to every program. -/
def Builtin.path : Builtin → String × String
  | int => ("builtins", "int")
  | int8 => ("typewire.types", "Int8")
  | int16 => ("typewire.types", "Int16")
  | int32 => ("typewire.types", "Int32")
  | int64 => ("typewire.types", "Int64")
  | str => ("builtins", "str")
  | bool => ("builtins", "bool")
  | float => ("builtins", "float")
  | float32 => ("typewire.types", "Float32")
  | complex => ("builtins", "complex")
  | object => ("builtins", "object")
  | type => ("builtins", "type")
  | bytes => ("builtins", "bytes")
  | bytearray => ("builtins", "bytearray")
  | deque => ("collections", "deque")
  | decimal => ("decimal", "Decimal")
  | uuid => ("uuid", "UUID")
  | date => ("datetime", "date")
  | time => ("datetime", "time")
  | dateTime => ("datetime", "datetime")
  | offsetTime => ("typewire.types", "OffsetTime")
  | offsetDateTime => ("typewire.types", "OffsetDateTime")
  | zonedDateTime => ("typewire.types", "ZonedDateTime")
  | instant => ("typewire.types", "Instant")
  | contentStream => ("typewire.types", "ContentStream")
  | binaryPayload => ("typewire.types", "BinaryPayload")
  | binaryFile => ("typing", "BinaryIO")
  | memoryFile => ("_io", "BytesIO")
  | rawFile => ("io", "RawIOBase")

/-- The name of a class known to every program. -/
def Builtin.name (b : Builtin) : String := b.path.2

/-- The classes known to every program. -/
def Builtin.all : List Builtin :=
  [int, int8, int16, int32, int64, str, bool, float, float32, complex, object, type, bytes,
    bytearray, deque, decimal, uuid, date, time, dateTime, offsetTime, offsetDateTime,
    zonedDateTime, instant, contentStream, binaryPayload, binaryFile, memoryFile, rawFile]

/-- The known class of that name. -/
def Builtin.ofName? (name : String) : Option Builtin := all.find? (·.name == name)

/-- A declared class. Its `id` tells it from all others; several may share a name. -/
structure ClassRef where
  id : String
  name : String
  module : String
  qualifiedName : String
deriving DecidableEq, Repr

/-- A class, known to every program or declared. -/
inductive NamedClass where
  | builtin (b : Builtin)
  | declared (c : ClassRef)
deriving DecidableEq, Repr

def NamedClass.name : NamedClass → String
  | builtin b => b.name
  | declared c => c.name

/-- The module of a class and its name within that. -/
def NamedClass.path : NamedClass → String × String
  | builtin b => b.path
  | declared c => (c.module, c.qualifiedName)

end ApiShape
