import ApiShape.Converter.Basic

/-!
The converters of the leaf types that every program knows, and those of enumerations.
-/

namespace ApiShape

open Number Time

/-! ## Numbers -/

private def unfit (f : Fault) : Except Error Value := .error (.fault f)

/-- Reads a whole number. -/
def Number.IntegerType.read (t : IntegerType) (raw : String) : Except Error Value :=
  match signedDigits? raw.toList with
  | none => unfit (.notANumber raw)
  | some (negative, ds) =>
    if maxDigits < ds.length then unfit (.tooManyDigits ds.length)
    else
      let n := signed negative (ofDigits ds)
      if t.admits n then .ok (.integer t n) else unfit (.outOfBounds n t)

def Number.Decimal.read (raw : String) : Except Error Decimal :=
  match DecimalText.span? raw.toList with
  | some (text, []) =>
    let d := text.value
    if d.inRange then .ok d else .error (.fault .decimalRange)
  | _ => .error (.fault (.notANumber raw))

/-- The letters that may end the text of a double precision number. -/
def Number.Double.isTypeLetter (c : Char) : Bool := c = 'f' || c = 'F' || c = 'd' || c = 'D'

/-- Reads a double precision number: a decimal, perhaps with a type letter, or a special value. -/
def Number.Double.read (raw : String) : Except Error Double :=
  let (negative, rest) := spanSign raw.toList
  if rest = "NaN".toList then .ok .nan
  else if rest = "Infinity".toList then .ok (.infinite negative)
  else match DecimalText.span? raw.toList with
    | some (text, []) => .ok (.ofDecimal text.value)
    | some (text, [c]) =>
      if Double.isTypeLetter c then .ok (.ofDecimal text.value)
      else .error (.fault (.notANumber raw))
    | _ => .error (.fault (.notANumber raw))

/-! ## Other leaves -/

/-- Reads a truth value: any spelling of "true" is true, all else false. -/
def readBool (raw : String) : Bool := lowerCase raw == "true"

/-- Reads a universally unique identifier. -/
def Uuid.read (raw : String) : Except Error Uuid :=
  match Uuid.read? raw with
  | some u => .ok u
  | none => .error (.fault (.malformedUuid raw))

def timeParser {α : Type} (read : String → Except Time.Fault α) (wrap : α → Value) (raw : String) :
    Except Error Value :=
  match read raw with
  | .ok a => .ok (wrap a)
  | .error f => .error (.fault (.time f))

private def leaf (b : Builtin) (parse : String → Except Error Value) (schema : Schema) :
    Converter :=
  { target := .ofBuiltin b, parse, schema }

/-- The numeric converters. In a lenient registry unfit text becomes zero. -/
def numericConverters (lenient : Bool) : List Converter :=
  let integer (b : Builtin) (t : IntegerType) (format : Option String) : Converter :=
    { leaf b t.read (.plain "integer" format) with default := some (.integer t 0), lenient }
  let number (b : Builtin) (parse : String → Except Error Value) (default : Value)
      (format : Option String) : Converter :=
    { leaf b parse (.plain "number" format) with default := some default, lenient }
  let double (single : Bool) (raw : String) : Except Error Value :=
    (Double.read raw).map (.double single)
  [integer .int8 .int8 (some "int32"),
    integer .int16 .int16 (some "int32"),
    integer .int32 .int32 (some "int32"),
    integer .int64 .int64 (some "int64"),
    integer .int .unbounded none,
    number .decimal (fun raw => (Decimal.read raw).map .decimal) (.decimal ⟨false, 0, 0⟩) none,
    number .float (double false) (.double false .zero) (some "double"),
    number .float32 (double true) (.double true .zero) (some "float")]

/-- The converters of the leaf types that are no numbers. -/
def plainConverters (zones : ZoneDirectory) : List Converter :=
  let string (format : String) := Schema.plain "string" (some format)
  [{ leaf .bool (fun raw => .ok (.bool (readBool raw))) (.plain "boolean" none) with
      default := some (.bool false) },
    leaf .str (fun raw => .ok (.text raw)) .string,
    leaf .uuid (fun raw => (Uuid.read raw).map .uuid) (string "uuid"),
    leaf .date (timeParser Date.read .date) (string "date"),
    leaf .time (timeParser TimeOfDay.read .time) (string "time"),
    leaf .offsetTime (timeParser OffsetTime.read .offsetTime) (string "time"),
    leaf .dateTime (timeParser DateTime.read .dateTime) (string "date-time"),
    leaf .offsetDateTime (timeParser OffsetDateTime.read .offsetDateTime) (string "date-time"),
    leaf .zonedDateTime (timeParser (ZonedDateTime.read zones) .zonedDateTime) (string "date-time"),
    leaf .instant (timeParser Instant.read .instant) (string "date-time")]

/-- The converters that a program starts with. -/
def leafConverters (zones : ZoneDirectory) (lenient : Bool) : List Converter :=
  numericConverters lenient ++ plainConverters zones

/-! ## Enumerations -/

/-- The converter of an enumeration: by name, and unless strict by the printed value. -/
def Enumeration.converter (e : Enumeration) (target : Descriptor) (ref : ClassRef) (strict : Bool) :
    Converter where
  target := target
  strict := strict
  schema := .primitive "string" none (some e.names)
  parse raw :=
    let found := if strict then e.byName? raw else e.byName? raw <|> e.byValue? raw
    match found with
    | some (name, value) => .ok (.member ref name value)
    | none => .error (.fault (.unknownMember raw ref.name e.names))

end ApiShape
