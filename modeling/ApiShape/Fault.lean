import ApiShape.Http.Host
import ApiShape.Number.Integer
import ApiShape.Text.Charset
import ApiShape.Text.Quoted
import ApiShape.Time.Reading
import ApiShape.Types.Describe

/-!
Faults: what readers, constructors and declarations refuse. Each cause is a constructor, its wording
is given by `Fault.message` and its broad kind by `Fault.kind`.
-/

namespace ApiShape

open Number

/-- The broad kinds of faults. -/
inductive FaultKind where
  | value
  | type
  | key
  | index
  | name
  | arithmetic
  | overflow
  | zeroDivision
  | decimal
  | cookie
  | encoding
  | validation
deriving DecidableEq, Repr

/-- The causes why settings are unfit. -/
inductive SettingsFault where
  | environment (name : String)
  | debugInProduction
  | logLevel (name : String)
  | uploadLimit
  | unknownLevel (name : String)
deriving DecidableEq, Repr

inductive Fault where
  /-- The text is no number. -/
  | notANumber (text : String)
  /-- The number does not fit into the type. -/
  | outOfBounds (n : Int) (type : IntegerType)
  /-- The text has more digits than numbers may have. -/
  | tooManyDigits (count : Nat)
  /-- The number has more digits than printed numbers may have. -/
  | longNumber
  /-- The text is no whole number. -/
  | notAnInteger (text : String)
  /-- The decimal's exponent is out of range. -/
  | decimalRange
  /-- The text is no decimal. -/
  | decimalText
  | malformedUuid (text : String)
  | unknownMember (text enum : String) (names : List String)
  | time (fault : Time.Fault)
  /-- The text has too few or too many parts. -/
  | partCount (expected : Nat) (found : Nat)
  /-- The container has no item type. -/
  | noItemType (type : Descriptor)
  /-- The hand-made mapping has no arguments. -/
  | noArgument
  | notAWrapper (type : Descriptor)
  | notOneField (className : String) (found : Option Nat)
  | unhashable (className : String)
  | unresolvedName (name : String)
  | unknownKey (key : String)
  | unknownLocation (name : String)
  | argumentCount (noun : String) (path : String × String) (found expected : Nat)
  | notGeneric (path : String × String)
  | notSubscriptable (className : String)
  | emptyUnion
  | fieldOrder (name : String)
  | sharedDefault (path : String × String) (field : String)
  | frozenParent
  | unfrozenParent
  /-- The values are of kinds that have no order between them. -/
  | notComparable (operator left right : String)
  | noLength (className : String)
  | host (fault : Http.HostFault)
  | chunkSize
  | cookieKey (key : String)
  | cookieAttribute (name : String)
  | notLatin1 (chars : List Char) (position : Nat)
  | charset (fault : Text.CharsetFault)
  | settings (fault : SettingsFault)
  /-- A fault that a constructor, a factory or a registered parser of the program raises. -/
  | raised (kind : FaultKind) (message : String)
deriving Repr

/-! ## Wording -/

/-- What the forms of date and time texts are called. -/
def Time.Form.name : Time.Form → String
  | .date => "a date"
  | .localTime => "a local time"
  | .offsetTime => "an offset time"
  | .localDateTime => "a local date-time"
  | .offsetDateTime => "an offset date-time"
  | .zonedDateTime => "a zoned date-time"

/-- The message for a part out of its range. -/
def Time.RangeFault.message : Time.RangeFault → String
  | .year n => s!"year {n} is out of range"
  | .month => "month must be in 1..12"
  | .day => "day is out of range for month"
  | .hour => "hour must be in 0..23"
  | .minute => "minute must be in 0..59"
  | .second => "second must be in 0..59"

/-- The message for a text with too many digits. -/
def digitLimitMessage (count : Nat) : String :=
  s!"Exceeds the limit ({maxDigits} digits) for integer string conversion: value has {count} " ++
    "digits; use sys.set_int_max_str_digits() to increase the limit"

/-- The message for a text that is no date or time. -/
def Time.Fault.message : Time.Fault → String
  | .malformed text form => s!"Text '{text}' could not be parsed as {form.name}"
  | .outOfRange fault => fault.message
  | .malformedOffset text => s!"Invalid offset '{text}'"
  | .offsetTooLarge text => s!"Offset '{text}' is outside the range -18:00 to +18:00"
  | .unknownZone id => s!"Unknown time-zone ID '{id}'"
  | .neitherOffsetNorZone text => s!"Text '{text}' has neither an offset nor a zone"
  | .epochOutOfRange text => s!"Epoch milliseconds {text} out of range"
  | .tooManyDigits count => digitLimitMessage count
  | .beyondCalendar => "date value out of range"

def Number.IntegerType.name : IntegerType → String
  | .unbounded => "int"
  | .int8 => "Int8"
  | .int16 => "Int16"
  | .int32 => "Int32"
  | .int64 => "Int64"

/-- The message for unfit settings. -/
def SettingsFault.message : SettingsFault → String
  | environment name => s!"Unsupported environment: {name}"
  | debugInProduction => "Debug must be disabled in production"
  | logLevel name => s!"Unsupported log level: {name}"
  | uploadLimit => "Maximum upload size must be positive"
  | unknownLevel name => s!"Unknown level: {Text.quoted name}"

/-- The message for a host that is refused. -/
def Http.HostFault.message : Http.HostFault → String
  | .unbalanced => "Invalid IPv6 URL"
  | .futureAddress => "IPvFuture address is invalid"
  | .shortAddress => "An IPv4 address cannot be in brackets"
  | .noAddress host => s!"{Text.quoted host} does not appear to be an IPv4 or IPv6 address"
  | .hiddenDelimiter host =>
    s!"netloc '{host}' contains invalid characters under NFKC normalization"

private def hexByte (b : UInt8) : String := String.ofList (Text.hexFixed 2 b.toNat)

def Text.Utf8.Malformed.reason : Text.Utf8.Malformed → String
  | .startByte => "invalid start byte"
  | .continuationByte => "invalid continuation byte"
  | .truncated => "unexpected end of data"

/-- The message for bytes that could not be read as text. -/
def Text.CharsetFault.message : Text.CharsetFault → String
  | .unknownCharset name => s!"unknown encoding: {name}"
  | .malformedUtf8 ⟨reason, position, bytes⟩ =>
    let where_ := match bytes with
      | [b] => s!"byte 0x{hexByte b} in position {position}"
      | _ => s!"bytes in position {position}-{position + bytes.length - 1}"
    s!"'utf-8' codec can't decode {where_}: {reason.reason}"
  | .notAscii b position =>
    s!"'ascii' codec can't decode byte 0x{hexByte b} in position {position}: " ++
      "ordinal not in range(128)"
  | .refused message | .broken message => message
  | .nulInName => "embedded null character"

/-- A class as its declaration faults show it. -/
def shownClass (path : String × String) : String :=
  if path.1 == "builtins" then s!"<class '{path.2}'>" else s!"<class '{path.1}.{path.2}'>"

private def latin1Message (chars : List Char) (position : Nat) : String :=
  let where_ := match chars with
    | [c] => s!"character '{String.ofList (Text.numericEscape c.toNat)}' in position {position}"
    | _ => s!"characters in position {position}-{position + chars.length - 1}"
  s!"'latin-1' codec can't encode {where_}: ordinal not in range(256)"

namespace Fault

def message : Fault → String
  | notANumber text => s!"For input string: \"{text}\""
  | outOfBounds n type => s!"{n} out of range for {type.name}"
  | tooManyDigits count => digitLimitMessage count
  | longNumber =>
    s!"Exceeds the limit ({maxDigits} digits) for integer string conversion; " ++
      "use sys.set_int_max_str_digits() to increase the limit"
  | notAnInteger text =>
    let shown := String.ofList ((Text.quoted text).toList.take 200)
    s!"invalid literal for int() with base 10: {shown}"
  | decimalRange => "[<class 'decimal.InvalidOperation'>]"
  | decimalText => "[<class 'decimal.ConversionSyntax'>]"
  | malformedUuid text => s!"Invalid UUID string: {text}"
  | unknownMember text enum names =>
    let expected := ",".intercalate names
    s!"Invalid value [{text}] for enum parameter of type {enum}. Expected: [{expected}]"
  | time fault => fault.message
  | partCount expected found =>
    if found < expected then
      s!"not enough values to unpack (expected {expected}, got {found})"
    else s!"too many values to unpack (expected {expected})"
  | noItemType type => s!"{type.text} has no item type"
  | noArgument => "tuple index out of range"
  | notAWrapper type => s!"{type.text} is not a value wrapper"
  | notOneField className found =>
    let count := (found.map toString).getD "None"
    s!"{className} must declare exactly one field to be a wrapper, found {count}"
  | unhashable className => s!"unhashable type: '{className}'"
  | unresolvedName name => s!"name '{name}' is not defined"
  | unknownKey key => Text.quoted key
  | unknownLocation name => s!"Unsupported parameter location: {name}"
  | argumentCount noun path found expected =>
    let size := if expected < found then "many" else "few"
    s!"Too {size} {noun} for {shownClass path}; actual {found}, expected {expected}"
  | notGeneric path => s!"{shownClass path} is not a generic class"
  | notSubscriptable className => s!"type '{className}' is not subscriptable"
  | emptyUnion => "Cannot take a Union of no types."
  | fieldOrder name => s!"non-default argument {Text.quoted name} follows default argument"
  | sharedDefault path field =>
    s!"mutable default {shownClass path} for field {field} is not allowed: use default_factory"
  | frozenParent => "cannot inherit non-frozen dataclass from a frozen one"
  | unfrozenParent => "cannot inherit frozen dataclass from a non-frozen one"
  | notComparable operator left right =>
    s!"'{operator}' not supported between instances of '{left}' and '{right}'"
  | noLength className => s!"object of type '{className}' has no len()"
  | host fault => fault.message
  | chunkSize => "range() arg 3 must not be zero"
  | cookieKey key => s!"Illegal key {Text.quoted key}"
  | cookieAttribute name => s!"Invalid attribute {Text.quoted name}"
  | notLatin1 chars position => latin1Message chars position
  | charset fault => fault.message
  | settings fault => fault.message
  | raised .key message => Text.quoted message
  | raised _ message => message

def kind : Fault → FaultKind
  | time .beyondCalendar => .overflow
  | decimalRange | decimalText => .decimal
  | noItemType _ | notAWrapper _ | notOneField .. | unhashable _ | argumentCount .. | notGeneric _
  | notSubscriptable _ | emptyUnion | fieldOrder _ | frozenParent | unfrozenParent
  | notComparable .. | noLength _ => .type
  | noArgument => .index
  | unresolvedName _ => .name
  | unknownKey _ => .key
  | cookieKey _ | cookieAttribute _ => .cookie
  | notLatin1 .. => .encoding
  | raised kind _ => kind
  | _ => .value

/-- The fault says that the raw text is unfit, so that conversion may fall back. -/
def isUnfitText (f : Fault) : Bool :=
  match f.kind with
  | .value | .encoding | .validation | .arithmetic | .overflow | .zeroDivision | .decimal => true
  | _ => false

end Fault

end ApiShape
