import ApiShape.Error

/-!
The journal of a program: running totals of counters, and what was reported in which channel. A
total that goes up is itself reported.
-/

namespace ApiShape

open Number

/-- The severity of a report. -/
inductive Severity where
  | debug
  | info
  | warning
deriving DecidableEq, Repr

/-- The part of the program that a report comes from. -/
inductive Channel where
  | observability
  | schema
  | converters
  | wrappers
  | decoder
  | multipart
deriving DecidableEq, Repr

def Severity.name : Severity → String
  | debug => "DEBUG"
  | info => "INFO"
  | warning => "WARNING"

def Channel.name : Channel → String
  | observability => "observability"
  | schema => "schema"
  | converters => "converters"
  | wrappers => "wrappers"
  | decoder => "decoder"
  | multipart => "multipart"

/-- The counters that the library keeps. -/
inductive Counter where
  | schemasBuilt
  | nameCollisions
  | wrapperConverters
  | decodeFailures
  | multipartParts
deriving DecidableEq, Repr

def Counter.name : Counter → String
  | schemasBuilt => "schemas_built_total"
  | nameCollisions => "schema_name_collisions_total"
  | wrapperConverters => "wrapper_converters_total"
  | decodeFailures => "decode_failures_total"
  | multipartParts => "multipart_parts_total"

/-- Something worth reporting. -/
inductive Event where
  | counted (name : String) (total : Double)
  | schemaRegistered (name : String)
  | namesCollided (c : Collision)
  | converterDerived (wrapper inner : Descriptor)
  | defaultRejected (wrapper inner : Descriptor)
  | decodingFailed (type : Descriptor) (message : String)
  | unnamedPart
  | emptyUpload (name : String)
deriving Repr

namespace Event

/-- The channel of a report. -/
def channel : Event → Channel
  | counted .. => .observability
  | schemaRegistered _ | namesCollided _ => .schema
  | converterDerived .. => .wrappers
  | defaultRejected .. => .converters
  | decodingFailed .. => .decoder
  | unnamedPart | emptyUpload _ => .multipart

/-- The severity of a report. -/
def severity : Event → Severity
  | namesCollided _ => .warning
  | decodingFailed .. => .info
  | _ => .debug

/-- The text of a report. -/
def message : Event → String
  | counted name total =>
    let shown := String.ofList total.toText
    s!"metric {name}={shown}"
  | schemaRegistered name => s!"registered schema {name}"
  | namesCollided c => c.message
  | converterDerived wrapper inner => s!"derived converter for {wrapper.text} over {inner.text}"
  | defaultRejected wrapper inner => s!"{wrapper.text} rejects the default of {inner.text}"
  | decodingFailed type message => s!"decoding {type.text} failed: {message}"
  | unnamedPart => "ignoring unnamed multipart part"
  | emptyUpload name => s!"no file chosen for multipart part {name}"

end Event

/-- The totals of the counters and the reports, the latest first. -/
structure Journal where
  totals : Table String Double := ∅
  events : List Event := []
deriving Repr

namespace Journal

/-- Adds a report. -/
def report (j : Journal) (e : Event) : Journal := { j with events := e :: j.events }

/-- The total of a counter. -/
def total (j : Journal) (name : String) : Double := (j.totals.get? name).getD .zero

/-- Adds an amount to a counter and reports the new total. -/
def addTo (j : Journal) (name : String) (amount : Double) : Journal :=
  let total := (j.total name).add amount
  { j with totals := j.totals.set name total }.report (.counted name total)

/-- Counts one more. -/
def count (j : Journal) (c : Counter) : Journal := j.addTo c.name .one

/-- Forgets all totals. -/
def reset (j : Journal) : Journal := { j with totals := ∅ }

end Journal

end ApiShape
